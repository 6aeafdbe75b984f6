import SpecPrompt.Proofs.Document.Survival
import SpecPrompt.Proofs.Text.Casing
import SpecPrompt.Proofs.Text.Cutting

/-!
# The fields of a document

Fields come from the lines of the preamble, from the title, and from the list in a metadata section.
A line of the preamble names its field by a label that is not blank, and only `tags` is cut into a
list. A list in a section takes its keys as they are written, so it may name a field by nothing at
all, and it gives `tags` as a text, which the tags of the document then leave out.

## Main result

`isField_parse_iff`: what holds of the fields of every document, and that these two are the only ways
to a field that is none.
-/

namespace SpecPrompt

open Chars

/-- A trimmed key with a trimmed value. Only `tags` may hold a list, one that is cut at the commas. -/
structure IsTidy (key : String) (value : FieldValue) : Prop where
  trimmed : Text.trim key = key
  text : ∀ t, value = .text t → Text.trim t = t ∧ '\n' ∉ t.toList
  list : ∀ items, value = .list items →
    key = "tags" ∧ ∀ item ∈ items, Text.trim item = item ∧ ',' ∉ item.toList

/-- A tidy field that has a key, and a list if the key is `tags`. -/
structure IsField (key : String) (value : FieldValue) : Prop extends IsTidy key value where
  named : key ≠ ""
  listed : key = "tags" → ∃ items, value = .list items

/-- The metadata section gives every field a key, and does not give the tags unless the preamble
does. -/
structure Outline.ListsFields (o : Outline) : Prop where
  named : (bulletFields o.sections).get? "" = none
  noTags : (bulletFields o.sections).get? "tags" = none ∨ o.preambleFields.get? "tags" ≠ none

/-! ### Keys -/

theorem keyAliases_tidy : ∀ e ∈ keyAliases, e.2 ≠ "" ∧ Text.trim e.2 = e.2 := by
  decide +kernel

theorem mem_of_lookup {key value : String} {es : List (String × String)}
    (h : es.lookup key = some value) : (key, value) ∈ es := by
  induction es with
  | nil => cases h
  | cons e es ih =>
    rw [List.lookup_cons] at h
    split at h
    next same =>
      obtain rfl := Option.some.inj h
      rw [beq_iff_eq.mp same]
      exact List.mem_cons_self
    · exact List.mem_cons_of_mem _ (ih h)

/-- A label that is not blank stands for a key that is trimmed and not empty. -/
theorem normalizeKey_tidy {label : List Char} (trimmed : trim label = label) (some : label ≠ []) :
    normalizeKey (String.ofList label) ≠ "" ∧
      Text.trim (normalizeKey (String.ofList label)) = normalizeKey (String.ofList label) := by
  have lowered : Text.lower (Text.trim (String.ofList label)) = String.ofList (lower label) := by
    rw [Text.trim, Text.lower, String.toList_ofList, String.toList_ofList, trimmed]
  rw [normalizeKey, lowered]
  cases known : keyAliases.lookup (String.ofList (lower label)) with
  | some key => exact keyAliases_tidy _ (mem_of_lookup known)
  | none =>
    refine ⟨fun empty => ?_, ?_⟩
    · exact some ((lower_eq_nil_iff trimmed).mp (String.ofList_eq_empty_iff.mp empty))
    · rw [Option.getD_none, trim_eq_iff, String.toList_ofList, trim_lower trimmed]

/-! ### Lines that give a field -/

/-- The line counts for its block: it is no heading, and what stands before the first colon is not
blank. -/
def Counts (line label value : List Char) : Prop :=
  line.head? ≠ some '#' ∧ line = label ++ ':' :: value ∧ ':' ∉ label ∧ ¬ AllBlank label

theorem statedPair?_eq_some_iff {line label value : List Char} :
    statedPair? line = some (label, value) ↔
      ∃ before after, Counts line before after ∧ label = trim before ∧ value = trim after := by
  rw [statedPair?]
  split
  next heading => simp [Counts, heading]
  next other =>
    split
    next uncut =>
      simp only [reduceCtorEq, false_iff, not_exists, not_and]
      rintro before after ⟨-, cut⟩
      have := splitOnce_singleton_eq_some_iff.mpr ⟨cut.1, cut.2.1⟩
      simp [uncut] at this
    next before after found =>
      obtain ⟨cut, first⟩ := splitOnce_singleton_eq_some_iff.mp found
      -- The cut is the only one, so a line counts with these parts or not at all.
      have only : ∀ before' after', Counts line before' after' →
          before' = before ∧ after' = after := by
        rintro before' after' ⟨-, cut', first', -⟩
        have again := splitOnce_singleton_eq_some_iff.mpr ⟨cut', first'⟩
        rw [found] at again
        simpa [eq_comm] using again
      dsimp only
      split
      next blank =>
        simp only [reduceCtorEq, false_iff, not_exists, not_and]
        intro before' after' counts
        obtain ⟨rfl, rfl⟩ := only before' after' counts
        exact absurd (trim_eq_nil_iff.mp (List.isEmpty_iff.mp blank)) counts.2.2.2
      next filled =>
        simp only [Option.some.injEq, Prod.mk.injEq]
        constructor
        · rintro ⟨rfl, rfl⟩
          refine ⟨before, after, ⟨other, cut, first, fun blank => ?_⟩, rfl, rfl⟩
          exact filled (List.isEmpty_iff.mpr (trim_eq_nil_iff.mpr blank))
        · rintro ⟨before', after', counts, rfl, rfl⟩
          obtain ⟨rfl, rfl⟩ := only before' after' counts
          exact ⟨rfl, rfl⟩

theorem bulletedPair?_eq_some_iff {line label text : List Char} :
    bulletedPair? line = some (label, text) ↔ ∃ rest before after, line = "- **".toList ++ rest ∧
      CutAt "**:".toList rest before after ∧ label = trim before ∧ text = trim after := by
  simp only [bulletedPair?, Option.map_eq_some_iff, Option.bind_eq_some_iff,
    List.isPrefixOf?_eq_some_iff_append_eq, splitOnce_eq_some_iff, Prod.exists, Prod.mk.injEq]
  constructor
  · rintro ⟨before, after, ⟨rest, rfl, cut⟩, rfl, rfl⟩
    exact ⟨rest, before, after, rfl, cut, rfl, rfl⟩
  · rintro ⟨rest, before, after, rfl, cut, rfl, rfl⟩
    exact ⟨before, after, ⟨rest, rfl, cut⟩, rfl, rfl⟩

/-! ### Values -/

/-- The trimmed end of a line is a text value. -/
private theorem tidy_text {key : String} {line before value : List Char} (oneLine : '\n' ∉ line)
    (trimmed : Text.trim key = key) (cut : line = before ++ value) :
    IsTidy key (.text (String.ofList (trim value))) where
  trimmed := trimmed
  text t same := by
    obtain rfl := FieldValue.text.inj same
    refine ⟨by rw [trim_eq_iff, String.toList_ofList, trim_trim], fun inside => ?_⟩
    rw [String.toList_ofList] at inside
    exact oneLine (cut ▸ List.mem_append_right _ (mem_of_mem_trim inside))
  list := nofun

/-! ### Fields of the preamble -/

theorem isField_fieldValueOf {key : String} {line before value : List Char} (oneLine : '\n' ∉ line)
    (trimmed : Text.trim key = key) (named : key ≠ "") (cut : line = before ++ value) :
    IsField key (fieldValueOf key (trim value)) := by
  rw [fieldValueOf]
  split
  next tags =>
    refine ⟨⟨trimmed, nofun, fun items same => ⟨tags, fun item member => ?_⟩⟩, named,
      fun _ => ⟨_, rfl⟩⟩
    obtain rfl := FieldValue.list.inj same
    obtain ⟨piece, hpiece, rfl⟩ := List.mem_map.mp member
    rw [trim_eq_iff, String.toList_ofList, trim_trim]
    exact ⟨rfl, fun inside => not_mem_of_mem_splitOn hpiece (mem_of_mem_trim inside)⟩
  next other => exact ⟨tidy_text oneLine trimmed cut, named, fun tags => absurd tags other⟩

/-- A line that states a field has a label that is not blank, and ends in the value. -/
theorem of_statedPair? {line label value : List Char} (h : statedPair? line = some (label, value)) :
    trim label = label ∧ label ≠ [] ∧ ∃ before rest, line = before ++ rest ∧ value = trim rest := by
  obtain ⟨before, after, ⟨-, cut, -, filled⟩, rfl, rfl⟩ := statedPair?_eq_some_iff.mp h
  exact ⟨trim_trim before, mt trim_eq_nil_iff.mp filled, before ++ [':'], after, by simp [cut], rfl⟩

theorem Outline.mem_preamble_of_mem_titleAndLines {o : Outline} {line : List Char}
    (h : line ∈ o.titleAndLines.2) : line ∈ o.preamble := by
  rw [titleAndLines] at h
  split at h
  · exact absurd h List.not_mem_nil
  next first rest lines =>
    split at h
    · exact lines ▸ List.mem_cons_of_mem _ h
    · exact lines ▸ h

theorem Outline.title_of_titleAndLines {o : Outline} {title : List Char}
    (h : o.titleAndLines.1 = some title) :
    ∃ text, "# ".toList ++ text ∈ o.preamble ∧ title = trim text := by
  rw [titleAndLines] at h
  split at h
  · cases h
  next first rest lines =>
    split at h
    next heading =>
      cases h
      obtain ⟨text, cut, rfl⟩ := Option.map_eq_some_iff.mp heading
      refine ⟨text, ?_, rfl⟩
      rw [List.isPrefixOf?_eq_some_iff_append_eq.mp cut, lines]
      exact List.mem_cons_self
    · cases h

theorem Outline.of_mem_statedFields {o : Outline} {e : String × FieldValue}
    (h : e ∈ o.statedFields) :
    ∃ line ∈ o.preamble, ∃ label value, statedPair? line = some (label, value) ∧
      e.1 = normalizeKey (String.ofList label) ∧ e.2 = fieldValueOf e.1 value := by
  simp only [statedFields, List.mem_filterMap, Option.map_eq_some_iff] at h
  obtain ⟨line, hline, ⟨label, value⟩, pair, same⟩ := h
  refine ⟨line, mem_preamble_of_mem_titleAndLines hline, label, value, pair, ?_⟩
  simp only [← same, and_self]

theorem isField_of_mem_statedFields {o : Outline} {e : String × FieldValue}
    (oneLine : ∀ line ∈ o.preamble, '\n' ∉ line) (h : e ∈ o.statedFields) : IsField e.1 e.2 := by
  obtain ⟨line, hline, label, value, pair, key, content⟩ := Outline.of_mem_statedFields h
  obtain ⟨trimmed, some, before, rest, cut, rfl⟩ := of_statedPair? pair
  have tidy := normalizeKey_tidy trimmed some
  rw [← key] at tidy
  rw [content]
  exact isField_fieldValueOf (oneLine line hline) tidy.2 tidy.1 cut

theorem isField_of_preambleFields {o : Outline} {key : String} {value : FieldValue}
    (oneLine : ∀ line ∈ o.preamble, '\n' ∉ line) (h : o.preambleFields.get? key = some value) :
    IsField key value := by
  have stated : (SortedMap.ofList o.statedFields).get? key = some value → IsField key value :=
    fun found => isField_of_mem_statedFields (e := (key, value)) oneLine
      (SortedMap.mem_of_mem_ofList (SortedMap.mem_toList_iff.mpr found))
  rw [Outline.preambleFields] at h
  split at h
  next title titled =>
    split at h
    · exact stated h
    · rw [SortedMap.get?_insert] at h
      split at h
      next name =>
        obtain rfl := name
        obtain rfl := Option.some.inj h
        obtain ⟨text, first, rfl⟩ := Outline.title_of_titleAndLines titled
        exact ⟨tidy_text (oneLine _ first) (by decide) rfl, by decide, fun tags => by simp at tags⟩
      · exact stated h
  · exact stated h

/-! ### Fields of a section -/

theorem of_bulletedPair? {line key value : List Char} (h : bulletedPair? line = some (key, value)) :
    trim key = key ∧ ∃ before rest, line = before ++ rest ∧ value = trim rest := by
  obtain ⟨rest, before, after, rfl, cut, rfl, rfl⟩ := bulletedPair?_eq_some_iff.mp h
  exact ⟨trim_trim before, "- **".toList ++ (before ++ "**:".toList), after, by simp [cut.whole], rfl⟩

theorem tidy_of_bulletFields {sections : SortedMap String String} {key : String}
    {value : FieldValue} (h : (bulletFields sections).get? key = some value) :
    IsTidy key value ∧ ∃ t, value = .text t := by
  rw [← SortedMap.mem_toList_iff, bulletFields] at h
  split at h
  · cases h
  next body _ =>
    obtain ⟨line, hline, bulleted⟩ := List.mem_filterMap.mp (SortedMap.mem_of_mem_ofList h)
    obtain ⟨⟨label, text⟩, pair, same⟩ := Option.map_eq_some_iff.mp bulleted
    obtain ⟨rfl, rfl⟩ := Prod.mk.inj same
    obtain ⟨trimmed, before, rest, cut, rfl⟩ := of_bulletedPair? pair
    refine ⟨tidy_text (not_newline_mem_of_mem_lines hline) ?_ cut, _, rfl⟩
    rw [trim_eq_iff, String.toList_ofList, trimmed]

/-! ### Fields of a document -/

theorem get?_metadata_ofOutline (o : Outline) (key : String) :
    (Document.ofOutline o).metadata.get? key =
      (o.preambleFields.get? key).or ((bulletFields o.sections).get? key) := by
  rw [Document.ofOutline, SortedMap.get?_insertAll, ← SortedMap.get?_ofList,
    SortedMap.ofList_toList]

section

variable {o : Outline} {key : String} {value : FieldValue}

/-- A field comes from the preamble, or else from the metadata section. -/
theorem field_cases (oneLine : ∀ line ∈ o.preamble, '\n' ∉ line)
    (h : (Document.ofOutline o).metadata.get? key = some value) :
    IsField key value ∨ IsTidy key value ∧ o.preambleFields.get? key = none ∧
      (bulletFields o.sections).get? key = some value := by
  rw [get?_metadata_ofOutline] at h
  rcases Option.or_eq_some_iff.mp h with found | ⟨hidden, found⟩
  · exact .inl (isField_of_preambleFields oneLine found)
  · exact .inr ⟨(tidy_of_bulletFields found).1, hidden, found⟩

/-- A field listed in the metadata section is a field of the document unless the preamble hides it. -/
theorem field_of_bulletFields (h : (bulletFields o.sections).get? key = some value)
    (shown : o.preambleFields.get? key = none) :
    (Document.ofOutline o).metadata.get? key = some value := by
  rw [get?_metadata_ofOutline, shown, h]
  rfl

end

theorem forall_isField_iff {o : Outline} (oneLine : ∀ line ∈ o.preamble, '\n' ∉ line) :
    (∀ key value, (Document.ofOutline o).metadata.get? key = some value → IsField key value) ↔
      o.ListsFields := by
  constructor
  · intro fields
    refine ⟨?_, ?_⟩
    · by_contra found
      obtain ⟨value, found⟩ := Option.ne_none_iff_exists'.mp found
      -- The preamble states no field without a key, so it does not hide a listed one.
      have shown : o.preambleFields.get? "" = none := by
        by_contra stated
        obtain ⟨other, stated⟩ := Option.ne_none_iff_exists'.mp stated
        exact (isField_of_preambleFields oneLine stated).named rfl
      exact (fields "" value (field_of_bulletFields found shown)).named rfl
    · by_contra both
      obtain ⟨found, hidden⟩ := not_or.mp both
      obtain ⟨value, found⟩ := Option.ne_none_iff_exists'.mp found
      have shown := field_of_bulletFields found (not_not.mp hidden)
      obtain ⟨items, list⟩ := (fields "tags" value shown).listed rfl
      obtain ⟨t, text⟩ := (tidy_of_bulletFields found).2
      cases list.symm.trans text
  · intro lists key value found
    rcases field_cases oneLine found with field | ⟨tidy, hidden, found⟩
    · exact field
    · refine ⟨tidy, fun empty => ?_, fun tags => ?_⟩
      · rw [empty, lists.named] at found
        cases found
      · rw [tags] at found hidden
        rcases lists.noTags with none | stated
        · cases none.symm.trans found
        · exact absurd hidden stated

/-- Every field of a document is tidy, and all of them are fields with a key, and with a list for the
tags, exactly if the metadata section lists no other. The tags of the document are then the ones it
states. -/
theorem isField_parse_iff (text : String) :
    (∀ e ∈ (Document.parse text).metadata.toList, IsTidy e.1 e.2) ∧
      ((∀ e ∈ (Document.parse text).metadata.toList, IsField e.1 e.2) ↔
        (Outline.ofLines (lines text.toList)).ListsFields) ∧
      ((Outline.ofLines (lines text.toList)).ListsFields →
        ∀ value, (Document.parse text).metadata.get? "tags" = some value →
          value = .list (Document.parse text).tags) := by
  rw [Document.parse]
  have oneLine : ∀ line ∈ (Outline.ofLines (lines text.toList)).preamble, '\n' ∉ line :=
    fun line hline => not_newline_mem_of_mem_lines (Outline.mem_of_mem_ofLines.1 line hline)
  generalize Outline.ofLines (lines text.toList) = o at oneLine ⊢
  have fields_iff := forall_isField_iff oneLine
  refine ⟨fun ⟨key, value⟩ member => ?_, ?_, fun lists value found => ?_⟩
  · rcases field_cases oneLine (SortedMap.mem_toList_iff.mp member) with field | ⟨tidy, -⟩
    · exact field.toIsTidy
    · exact tidy
  · rw [← fields_iff]
    simp only [← SortedMap.mem_toList_iff, Prod.forall]
  · obtain ⟨items, rfl⟩ := (fields_iff.mpr lists "tags" value found).listed rfl
    rw [Document.tags, found]
    rfl

/-- A list that names a field by nothing, and one that holds the tags, which the document then does
not have although it has their key. -/
theorem not_isField_listed :
    (Document.parse "## Metadados\n- ****: x").metadata.toList = [("", .text "x")] ∧
      (Document.parse "## Metadados\n- **tags**: a, b").metadata.toList =
        [("tags", .text "a, b")] ∧
      (Document.parse "## Metadados\n- **tags**: a, b").tags = [] ∧
      ¬ IsField "" (.text "x") ∧ ¬ IsField "tags" (.text "a, b") := by
  refine ⟨by decide +kernel, by decide +kernel, by decide +kernel, fun field => ?_, fun field => ?_⟩
  · exact field.named rfl
  · obtain ⟨items, list⟩ := field.listed rfl
    cases list

end SpecPrompt
