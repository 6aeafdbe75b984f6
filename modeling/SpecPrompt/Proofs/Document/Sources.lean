import SpecPrompt.Proofs.Document.Fields
import SpecPrompt.Proofs.Document.Sections

/-!
# Where a field comes from

What the fields of a text are, said of its lines alone. A field comes from the first of three sources
that has it: the title, the block of lines before the first marker, and the list in the metadata
section. Within a source the last line counts. The title is a source for the name only, and only if some
line of the block counts and a marker follows.

## Main result

`get?_metadata_parse`: these are the fields of every text.
-/

namespace SpecPrompt

open Chars

/-! ### Sources in order -/

section

variable {α : Type}

/-- What the first source gives, or else what the second one gives. -/
def OrElse (p q : α → Prop) (a : α) : Prop :=
  p a ∨ (∀ b, ¬ p b) ∧ q a

theorem orElse_assoc {p q r : α → Prop} {a : α} :
    OrElse (OrElse p q) r a ↔ OrElse p (OrElse q r) a := by
  constructor
  · rintro ((first | ⟨none, second⟩) | ⟨neither, third⟩)
    · exact .inl first
    · exact .inr ⟨none, .inl second⟩
    · have none : ∀ b, ¬ p b := fun b first => neither b (.inl first)
      exact .inr ⟨none, .inr ⟨fun b second => neither b (.inr ⟨none, second⟩), third⟩⟩
  · rintro (first | ⟨none, second | ⟨unsaid, third⟩⟩)
    · exact .inl (.inl first)
    · exact .inl (.inr ⟨none, second⟩)
    · refine .inr ⟨?_, third⟩
      rintro b (first | ⟨-, second⟩)
      · exact none b first
      · exact unsaid b second

theorem or_eq_some_iff_orElse {a b : Option α} {p q : α → Prop} (first : ∀ v, a = some v ↔ p v)
    (second : ∀ v, b = some v ↔ q v) {v : α} : a.or b = some v ↔ OrElse p q v := by
  rw [Option.or_eq_some_iff, first, second, OrElse, Option.eq_none_iff_forall_ne_some]
  simp only [ne_eq, first]

theorem orElse_of_forall_not {p q : α → Prop} (none : ∀ b, ¬ p b) {a : α} :
    OrElse p q a ↔ q a := by
  simp [OrElse, none]

/-- What the last of the lines gives that give anything. -/
def LastGiven (gives : List Char → α → Prop) (ls : List (List Char)) (a : α) : Prop :=
  ∃ line after, IsLast (fun line => ∃ b, gives line b) ls line after ∧ gives line a

theorem lastGiven_congr {p q : List Char → α → Prop} (h : ∀ line a, p line a ↔ q line a)
    {ls : List (List Char)} {a : α} : LastGiven p ls a ↔ LastGiven q ls a := by
  simp only [LastGiven, h]

/-- Of the entries that lines stand for, the one of the last line counts. -/
theorem get?_ofList_filterMap_iff {entry : List Char → Option (String × α)} {ls : List (List Char)}
    {key : String} {value : α} :
    (SortedMap.ofList (ls.filterMap entry)).get? key = some value ↔
      LastGiven (fun line a => entry line = some (key, a)) ls value := by
  have found : ∀ {line after} {value : α}, entry line = some (key, value) →
      IsLast (fun line => ∃ b, entry line = some (key, b)) ls line after →
      (SortedMap.ofList (ls.filterMap entry)).get? key = some value := by
    rintro line after value here ⟨before, rfl, -, none⟩
    have later : ∀ e ∈ after.filterMap entry, e.1 ≠ key := by
      intro e member same
      obtain ⟨other, listed, there⟩ := List.mem_filterMap.mp member
      exact none other listed ⟨e.2, by rw [there, ← same]⟩
    rw [List.filterMap_append, List.filterMap_cons_some here]
    exact SortedMap.get?_ofList_append_cons value later
  constructor
  · intro stored
    have some : ∃ line ∈ ls, ∃ b, entry line = some (key, b) := by
      obtain ⟨line, listed, here⟩ := List.mem_filterMap.mp
        (SortedMap.mem_of_mem_ofList (SortedMap.mem_toList_iff.mpr stored))
      exact ⟨line, listed, value, here⟩
    obtain ⟨line, after, last⟩ := exists_isLast some
    obtain ⟨-, -, ⟨b, here⟩, -⟩ := id last
    have same := found here last
    rw [stored, Option.some.injEq] at same
    exact ⟨line, after, last, same ▸ here⟩
  · rintro ⟨line, after, last, here⟩
    exact found here last

end

/-! ### Lines that count -/

/-- The line counts, its label stands for `key`, and this is its value: a list for the tags, the text
for any other key. -/
def States (key : String) (line : List Char) (value : FieldValue) : Prop :=
  ∃ label text, Counts line label text ∧ normalizeKey (String.ofList label) = key ∧
    value = if key = "tags" then
      .list (((trim text).splitOn ',').map fun tag => String.ofList (trim tag))
    else .text (String.ofList (trim text))

theorem normalizeKey_trim (label : List Char) :
    normalizeKey (String.ofList (trim label)) = normalizeKey (String.ofList label) := by
  simp [normalizeKey, Text.trim]

/-! ### The block before the first marker -/

/-- The lines behind a title on the first line and before the first marker. -/
def blockOf (ls : List (List Char)) : List (List Char) :=
  let body := match ls with
    | [] => []
    | first :: rest => if IsTitle first then rest else first :: rest
  body.takeWhile fun line => ¬ Opens line

theorem not_isTitle_of_opens {line : List Char} (h : Opens line) : ¬ IsTitle line := by
  rintro ⟨rest, rfl⟩
  rcases h with ⟨other, same⟩ | ⟨other, same⟩ <;> simp at same

theorem titleText?_title (title : List Char) : titleText? ("# ".toList ++ title) = some (trim title) := by
  simp [titleText?, List.isPrefixOf?]

namespace Outline

theorem titleAndLines_title (title : List Char) (rest : List (List Char)) :
    (ofLines (("# ".toList ++ title) :: rest)).titleAndLines =
      (some (trim title), blockOf (("# ".toList ++ title) :: rest)) := by
  have titled : IsTitle ("# ".toList ++ title) := ⟨title, rfl⟩
  have silent : ¬ Opens ("# ".toList ++ title) := fun opens => not_isTitle_of_opens opens titled
  have first : (ofLines (("# ".toList ++ title) :: rest)).preamble =
      ("# ".toList ++ title) :: rest.takeWhile fun line => ¬ Opens line := by
    rw [preamble_ofLines, List.takeWhile_cons_of_pos (by simpa using silent)]
  simp only [titleAndLines, first, titleText?_title, blockOf, if_pos titled]

theorem titleAndLines_untitled {ls : List (List Char)}
    (h : ∀ first, ls.head? = some first → ¬ IsTitle first) :
    (ofLines ls).titleAndLines = (none, blockOf ls) := by
  rw [titleAndLines, preamble_ofLines]
  cases ls with
  | nil => rfl
  | cons first rest =>
    have untitled := h first rfl
    have noTitle : titleText? first = none :=
      Option.isNone_iff_eq_none.mp (titleText?_isNone_iff.mpr untitled)
    simp only [blockOf, if_neg untitled]
    by_cases opens : Opens first
    · rw [List.takeWhile_cons_of_neg (by simpa using opens)]
    · rw [List.takeWhile_cons_of_pos (by simpa using opens)]
      simp [noTitle]

theorem snd_titleAndLines (ls : List (List Char)) : (ofLines ls).titleAndLines.2 = blockOf ls := by
  by_cases h : ∃ title rest, ls = ("# ".toList ++ title) :: rest
  · obtain ⟨title, rest, rfl⟩ := h
    rw [titleAndLines_title]
  · rw [titleAndLines_untitled]
    rintro first here ⟨title, rfl⟩
    obtain ⟨rest, rfl⟩ := List.head?_eq_some_iff.mp here
    exact h ⟨title, rest, rfl⟩

theorem blocks_eq_nil_iff {ls : List (List Char)} :
    (ofLines ls).blocks = [] ↔ ∀ line ∈ ls, ¬ Opens line := by
  constructor
  · exact fun none => (not_opens_of_blocks_nil none).1
  · intro silent
    rw [ofLines_of_not_opens silent]

theorem statedFields_eq_nil_iff {ls : List (List Char)} :
    (ofLines ls).statedFields = [] ↔ ∀ line ∈ blockOf ls, ∀ label value, ¬ Counts line label value := by
  rw [statedFields, snd_titleAndLines, List.filterMap_eq_nil_iff]
  refine forall₂_congr fun line _ => ?_
  rw [Option.map_eq_none_iff, Option.eq_none_iff_forall_ne_some]
  constructor
  · intro none label value counts
    exact none _ (statedPair?_eq_some_iff.mpr ⟨label, value, counts, rfl, rfl⟩)
  · rintro none ⟨label, value⟩ pair
    obtain ⟨before, after, counts, -⟩ := statedPair?_eq_some_iff.mp pair
    exact none before after counts

theorem get?_statedFields_iff {ls : List (List Char)} {key : String} {value : FieldValue} :
    (SortedMap.ofList (ofLines ls).statedFields).get? key = some value ↔
      LastGiven (States key) (blockOf ls) value := by
  rw [statedFields, snd_titleAndLines, get?_ofList_filterMap_iff]
  apply lastGiven_congr
  intro line value
  simp only [Option.map_eq_some_iff, Prod.exists, statedPair?_eq_some_iff, Prod.mk.injEq, States,
    fieldValueOf]
  constructor
  · rintro ⟨_, _, ⟨before, after, counts, rfl, rfl⟩, named, rfl⟩
    rw [named]
    exact ⟨before, after, counts, normalizeKey_trim before ▸ named, rfl⟩
  · rintro ⟨before, after, counts, named, rfl⟩
    have named : normalizeKey (String.ofList (trim before)) = key := by
      rw [normalizeKey_trim, named]
    exact ⟨_, _, ⟨before, after, counts, rfl, rfl⟩, named, by rw [named]⟩

end Outline

/-! ### The title -/

/-- The title on the first line gives the name, if some line of the block counts and a marker closes the
block. -/
def TitleGives (ls : List (List Char)) (key : String) (value : FieldValue) : Prop :=
  key = "nome" ∧ ∃ title rest, ls = ("# ".toList ++ title) :: rest ∧ (∃ line ∈ rest, Opens line) ∧
    (∃ line ∈ blockOf ls, ∃ label text, Counts line label text) ∧
    value = .text (String.ofList (trim title))

theorem get?_preambleFields_iff {ls : List (List Char)} {key : String} {value : FieldValue} :
    (Outline.ofLines ls).preambleFields.get? key = some value ↔
      OrElse (TitleGives ls key) (LastGiven (States key) (blockOf ls)) value := by
  by_cases titled : ∃ title rest, ls = ("# ".toList ++ title) :: rest
  · obtain ⟨title, rest, start⟩ := titled
    have first : (Outline.ofLines ls).titleAndLines.1 = some (trim title) := by
      rw [start, Outline.titleAndLines_title]
    have silent : ¬ Opens ("# ".toList ++ title) := fun opens => not_isTitle_of_opens opens ⟨title, rfl⟩
    simp only [Outline.preambleFields, first]
    -- The leading block counts only if a section opens behind it and it states a field.
    split
    next unnamed =>
      rw [Outline.get?_statedFields_iff, orElse_of_forall_not]
      rintro - ⟨-, _, rest', start', ⟨line, listed, opens⟩, ⟨line', listed', label, text, counts⟩, -⟩
      rw [Bool.or_eq_true, List.isEmpty_iff, List.isEmpty_iff, Outline.blocks_eq_nil_iff,
        Outline.statedFields_eq_nil_iff] at unnamed
      rcases unnamed with open' | uncounted
      · exact open' line (by simp [start', listed]) opens
      · exact uncounted line' listed' label text counts
    next named =>
      simp only [Bool.or_eq_true, List.isEmpty_iff, not_or, Outline.blocks_eq_nil_iff,
        Outline.statedFields_eq_nil_iff, not_forall, not_not] at named
      obtain ⟨⟨line, listed, opens⟩, line', listed', label, text, counts⟩ := named
      have closed : ∃ line ∈ rest, Opens line := by
        rw [start] at listed
        rcases List.mem_cons.mp listed with rfl | listed
        · exact absurd opens silent
        · exact ⟨line, listed, opens⟩
      have gives : ∀ value, TitleGives ls key value ↔
          key = "nome" ∧ value = .text (String.ofList (trim title)) := by
        intro value
        constructor
        · rintro ⟨name, title', rest', start', -, -, rfl⟩
          have same : title' = title := by
            rw [start] at start'
            simpa [eq_comm] using (List.cons.inj start').1
          exact ⟨name, by rw [same]⟩
        · rintro ⟨name, rfl⟩
          exact ⟨name, title, rest, start, closed, ⟨line', listed', label, text, counts⟩, rfl⟩
      -- The title is stored as the name, and hides a field that states one.
      rw [SortedMap.get?_insert]
      by_cases name : key = "nome"
      · subst name
        simp [OrElse, gives, eq_comm]
      · rw [if_neg name, Outline.get?_statedFields_iff, orElse_of_forall_not (by simp [gives, name])]
  · have first : (Outline.ofLines ls).titleAndLines.1 = none := by
      rw [Outline.titleAndLines_untitled]
      rintro first here ⟨title, rfl⟩
      obtain ⟨rest, rfl⟩ := List.head?_eq_some_iff.mp here
      exact titled ⟨title, rest, rfl⟩
    -- Without a title, only what the lines state is left.
    simp only [Outline.preambleFields, first]
    rw [Outline.get?_statedFields_iff, orElse_of_forall_not]
    rintro - ⟨-, title, rest, start, -⟩
    exact titled ⟨title, rest, start⟩

/-! ### The list in the metadata section -/

/-- The line lists a field with its key as it is written, up to the first place where the bold print
ends in front of a colon. -/
def Lists (key : String) (line : List Char) (value : FieldValue) : Prop :=
  ∃ rest label text, line = "- **".toList ++ rest ∧ CutAt "**:".toList rest label text ∧
    String.ofList (trim label) = key ∧ value = .text (String.ofList (trim text))

/-- The last line to list the key gives it, in the first of the metadata sections that there is. -/
def ListGives (sections : SortedMap String String) (key : String) (value : FieldValue) : Prop :=
  ∃ body, ["Metadados", "METADADOS", "Metadata", "METADATA"].findSome? sections.get? = some body ∧
    LastGiven (Lists key) (lines body.toList) value

theorem metadataTitles_variants :
    metadataTitles.map titleVariants = [["Metadados", "METADADOS"], ["Metadata", "METADATA"]] := by
  decide +kernel

theorem findSome?_sectionIn? (sections : SortedMap String String) :
    metadataTitles.findSome? (Document.sectionIn? sections) =
      ["Metadados", "METADADOS", "Metadata", "METADATA"].findSome? sections.get? := by
  have each : Document.sectionIn? sections =
      (fun variants => variants.findSome? sections.get?) ∘ titleVariants := rfl
  rw [each, ← List.findSome?_map, metadataTitles_variants]
  simp only [List.findSome?_cons, List.findSome?_nil]
  cases sections.get? "Metadados" <;> cases sections.get? "METADADOS" <;>
    cases sections.get? "Metadata" <;> cases sections.get? "METADATA" <;> rfl

theorem get?_bulletFields_iff {sections : SortedMap String String} {key : String}
    {value : FieldValue} :
    (bulletFields sections).get? key = some value ↔ ListGives sections key value := by
  rw [bulletFields, findSome?_sectionIn?, ListGives]
  split
  next absent =>
    rw [absent]
    simp [SortedMap.get?_empty, show (∅ : SortedMap String FieldValue) = .empty from rfl]
  next body present =>
    rw [present, get?_ofList_filterMap_iff]
    simp only [Option.some.injEq, exists_eq_left']
    apply lastGiven_congr
    intro line value
    simp only [Option.map_eq_some_iff, Prod.exists, bulletedPair?_eq_some_iff, Prod.mk.injEq, Lists]
    constructor
    · rintro ⟨_, _, ⟨rest, before, after, start, cut, rfl, rfl⟩, named, rfl⟩
      exact ⟨rest, before, after, start, cut, named, rfl⟩
    · rintro ⟨rest, before, after, start, cut, named, rfl⟩
      exact ⟨_, _, ⟨rest, before, after, start, cut, rfl, rfl⟩, named, rfl⟩

/-! ### All fields -/

/-- A field of a text comes from its title, or else from the block of lines before the first marker, or
else from the list in its metadata section, and it is not there if none of them has it. -/
theorem get?_metadata_parse (text key : String) (value : FieldValue) :
    (Document.parse text).metadata.get? key = some value ↔
      OrElse (TitleGives (lines text.toList) key)
        (OrElse (LastGiven (States key) (blockOf (lines text.toList)))
          (ListGives (Document.parse text).sections key)) value := by
  rw [Document.parse, get?_metadata_ofOutline, ← orElse_assoc]
  exact or_eq_some_iff_orElse (fun _ => get?_preambleFields_iff) fun _ => get?_bulletFields_iff

example : (Document.parse "# T\nnome: x\n## Metadados\n- **Autor**: A\n- **nome**: y").metadata.toList =
    [("Autor", .text "A"), ("nome", .text "T")] := by decide +kernel

end SpecPrompt
