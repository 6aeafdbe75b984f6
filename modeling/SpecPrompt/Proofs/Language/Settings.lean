import SpecPrompt.Proofs.Document.Sources
import SpecPrompt.Proofs.Language.Labels

/-!
# The language in the settings

Each label that stands for the language in a preamble stands for it in the settings section too, also in
an item of a list. The line is still there when the section is read: it opens no section and is no
title, and what trimming takes from the ends of the section is blank, so nothing that a line states.

## Main result

`language_of_knownLabel`: the first line of the settings that states a language under such a label gives
the language, if the caller gives none.
-/

namespace SpecPrompt

open Chars

/-! ### Searching lines for what blanks do not change -/

/-- What is found in a line does not depend on the blanks around it, and nothing is found in an empty
line. -/
structure IgnoresBlanks {α : Type} (find : List Char → Option α) : Prop where
  empty : find [] = none
  trimmed : ∀ line, find (trim line) = find line

namespace IgnoresBlanks

variable {α : Type} {find : List Char → Option α}

theorem congr (h : IgnoresBlanks find) {line other : List Char} (same : trim line = trim other) :
    find line = find other := by
  rw [← h.trimmed line, same, h.trimmed]

theorem of_blank (h : IgnoresBlanks find) {line : List Char} (blank : AllBlank line) :
    find line = none := by
  rw [← h.trimmed, trim_eq_nil_iff.mpr blank, h.empty]

theorem findSome?_lines (h : IgnoresBlanks find) (cs : List Char) :
    (lines cs).findSome? find = (cs.splitOn '\n').findSome? find := by
  obtain ⟨ls, last, pieces, whole⟩ := exists_lines_eq cs
  have kept : find ∘ dropReturn = find := funext fun line => h.congr (trim_dropReturn line)
  rw [whole, pieces, List.findSome?_append, List.findSome?_append, List.findSome?_map, kept]
  split
  next empty => simp [empty, h.empty]
  · rfl

theorem findSome?_blanks_append (h : IgnoresBlanks find) {blanks : List Char}
    (blank : AllBlank blanks) (cs : List Char) :
    ((blanks ++ cs).splitOn '\n').findSome? find = (cs.splitOn '\n').findSome? find := by
  obtain ⟨ls, last, first, rest, before, behind, whole⟩ := exists_splitOn_append '\n' blanks cs
  have piece : ∀ line ∈ ls ++ [last], AllBlank line := fun line listed c inside =>
    blank c (mem_of_mem_splitOn (before ▸ listed) inside)
  have none : ls.findSome? find = none :=
    List.findSome?_eq_none_iff.mpr fun line listed => h.of_blank (piece line (by simp [listed]))
  have same : find (last ++ first) = find first :=
    h.congr (trim_blanks_append (piece last (by simp)))
  rw [whole, behind, List.findSome?_append, none, Option.none_or, List.findSome?_cons,
    List.findSome?_cons, same]

theorem findSome?_append_blanks (h : IgnoresBlanks find) {blanks : List Char}
    (blank : AllBlank blanks) (cs : List Char) :
    ((cs ++ blanks).splitOn '\n').findSome? find = (cs.splitOn '\n').findSome? find := by
  obtain ⟨ls, last, first, rest, before, behind, whole⟩ := exists_splitOn_append '\n' cs blanks
  have piece : ∀ line ∈ first :: rest, AllBlank line := fun line listed c inside =>
    blank c (mem_of_mem_splitOn (behind ▸ listed) inside)
  have none : rest.findSome? find = none :=
    List.findSome?_eq_none_iff.mpr fun line listed => h.of_blank (piece line (by simp [listed]))
  have same : find (last ++ first) = find last :=
    h.congr (trim_append_blanks (piece first (by simp)))
  rw [whole, before, List.findSome?_append, List.findSome?_append, List.findSome?_cons, same, none]
  rfl

theorem findSome?_lines_trim (h : IgnoresBlanks find) (cs : List Char) :
    (lines (trim cs)).findSome? find = (cs.splitOn '\n').findSome? find := by
  obtain ⟨before, after, blankBefore, blankAfter, cut⟩ := trim_cut cs
  have whole := h.findSome?_append_blanks blankAfter (before ++ trim cs)
  rw [← cut, h.findSome?_blanks_append blankBefore] at whole
  rw [h.findSome?_lines, whole]

theorem findSome?_filter {p : List Char → Bool} {ls : List (List Char)}
    (dropped : ∀ line, p line = false → find line = none) :
    (ls.filter p).findSome? find = ls.findSome? find := by
  induction ls with
  | nil => rfl
  | cons line ls ih =>
    cases kept : p line with
    | true => rw [List.filter_cons_of_pos kept, List.findSome?_cons, List.findSome?_cons, ih]
    | false =>
      rw [List.filter_cons_of_neg (by simp [kept]), List.findSome?_cons, dropped line kept, ih]

/-- In the body of a section the same is found as in the lines behind its marker. -/
theorem findSome?_bodyOf (h : IgnoresBlanks find) (title : ∀ line, IsTitle line → find line = none)
    {after : List (List Char)} (oneLine : ∀ line ∈ after, '\n' ∉ line) :
    (lines (bodyOf after)).findSome? find =
      (after.takeWhile fun line => ¬ Opens line).findSome? find := by
  have dropped : ∀ line, decide (¬ IsTitle line) = false → find line = none := by
    intro line titled
    apply title
    simpa using titled
  rw [bodyOf, h.findSome?_lines_trim]
  refine Eq.trans ?_ (findSome?_filter dropped)
  generalize listed : (after.takeWhile fun line => decide (¬ Opens line)).filter
    (fun line => decide (¬ IsTitle line)) = kept
  rcases eq_or_ne kept [] with rfl | filled
  · simp [joinLines, h.empty]
  · rw [joinLines, List.splitOn_intercalate _ _ filled]
    intro line member
    rw [← listed] at member
    exact oneLine line ((List.takeWhile_sublist _).subset (List.mem_of_mem_filter member))

end IgnoresBlanks

/-! ### Lines that state a language -/

theorem ignoresBlanks_languageOfLine? : IgnoresBlanks languageOfLine? where
  empty := rfl
  trimmed line := by simp [languageOfLine?]

theorem unboldLabel_eq_trim {label : List Char} (plain : '*' ∉ trim label) :
    unboldLabel label = trim label := by
  have start : dropStart (· == '*') (trim label) = trim label := by
    apply List.dropWhile_eq_self_iff.mpr
    intro filled first
    exact plain (by simpa using List.mem_of_getElem (beq_iff_eq.mp first))
  have rest : dropEnd (· == '*') (trim label) = trim label := by
    simpa using dropEnd_append_replicate 0 fun last => plain (List.mem_of_getLast? last)
  rw [unboldLabel, start, rest, trim_trim]

theorem not_mem_of_known {label : List Char} (known : normalizeKey (String.ofList label) = "linguagem") :
    ':' ∉ label ∧ '-' ∉ label := by
  obtain ⟨-, -, plain⟩ := recognized_of_normalizeKey known
  constructor <;> intro inside <;> rcases mem_trim_or_isBlank inside with kept | blank
  · exact (plain _ kept).1 rfl
  · exact absurd blank (by decide)
  · exact (plain _ kept).2.2 rfl
  · exact absurd blank (by decide)

/-- The line without blanks around it and without the mark of a list item. -/
def unmarked (line : List Char) : List Char :=
  ("- ".toList.isPrefixOf? (trim line)).getD (trim line)

theorem unmarked_blanks_append {blanks cs : List Char} (blank : AllBlank blanks) :
    unmarked (blanks ++ cs) = unmarked cs := by
  rw [unmarked, trim_blanks_append blank, unmarked]

/-- The line, cut at its first colon, has a recognized label and a value that is not blank. -/
def StatesLanguage (line value : List Char) : Prop :=
  ∃ label text, unmarked line = label ++ ':' :: text ∧ ':' ∉ label ∧
    languageLabels.contains (foldLabel (unboldLabel label)) = true ∧ ¬ AllBlank text ∧
    value = trim text

theorem nonBlank?_eq_some_iff {cs value : List Char} :
    nonBlank? cs = some value ↔ ¬ AllBlank cs ∧ value = trim cs := by
  rw [← trim_eq_nil_iff, nonBlank?]
  cases trim cs <;> simp [eq_comm]

theorem languageOfLine?_eq_some_iff {line value : List Char} :
    languageOfLine? line = some value ↔ StatesLanguage line value := by
  have cut : languageOfLine? line = (splitOnce [':'] (unmarked line)).bind fun cut =>
      if languageLabels.contains (foldLabel (unboldLabel cut.1)) then nonBlank? cut.2 else none := by
    simp only [languageOfLine?, unmarked]
    rcases splitOnce [':'] (("- ".toList.isPrefixOf? (trim line)).getD (trim line)) with _ | ⟨label, text⟩
    · rfl
    · rw [Option.bind_some]
  simp only [cut, StatesLanguage, Option.bind_eq_some_iff, Prod.exists, splitOnce_singleton_eq_some_iff,
    Option.ite_none_right_eq_some, nonBlank?_eq_some_iff, and_assoc]

/-- What is left of a line without its mark: the blanks behind a mark stay. -/
theorem exists_unmarked {mark rest : List Char} (text : List Char) (listed : mark ∈ [[], "- ".toList])
    (inked : ¬ AllBlank rest) (unlisted : '-' ∉ rest) :
    ∃ label, unmarked (mark ++ rest ++ ':' :: text) = label ++ ':' :: trimEnd text ∧
      trim label = trim rest ∧ label ⊆ rest := by
  have colon : ¬ AllBlank (':' :: text) := fun all => absurd (all ':' (by simp)) (by decide)
  have trimmed : ∀ cs, ¬ AllBlank cs →
      trim (cs ++ ':' :: text) = trimStart cs ++ ':' :: trimEnd text := by
    intro cs some
    rw [trim_append some colon, trimEnd_cons (by decide)]
  have start : trimStart rest ⊆ rest := (List.dropWhile_suffix isBlank).subset
  rw [unmarked]
  rw [List.mem_pair] at listed
  rcases listed with rfl | rfl
  · refine ⟨trimStart rest, ?_, by simp, start⟩
    -- What stands before the colon has no dash, so no mark is seen.
    have none : "- ".toList.isPrefixOf? (trimStart rest ++ ':' :: trimEnd text) = none := by
      cases first : trimStart rest with
      | nil => rfl
      | cons c others =>
        have other : c ≠ '-' := by
          rintro rfl
          exact unlisted (start (by simp [first]))
        simp [List.isPrefixOf?, Ne.symm other]
    rw [List.nil_append, trimmed rest inked, none]
    rfl
  · refine ⟨rest, ?_, rfl, List.Subset.refl rest⟩
    have marked : ¬ AllBlank ("- ".toList ++ rest) := fun all => inked fun c inside =>
      all c (by simp [inside])
    rw [trimmed _ marked]
    rfl

/-- The line gives the label this value, alone or as an item of a list, and it may have lost a carriage
return at its end. -/
def GivesValue (label value line : List Char) : Prop :=
  ∃ mark ∈ [[], "- ".toList], line = mark ++ label ++ ':' :: value ∨
    line = dropReturn (mark ++ label ++ ':' :: value)

theorem languageOfLine?_of_givesValue {label value line : List Char}
    (known : normalizeKey (String.ofList label) = "linguagem") (filled : ¬ AllBlank value)
    (gives : GivesValue label value line) : languageOfLine? line = some (trim value) := by
  obtain ⟨mark, listed, written⟩ := gives
  have same : languageOfLine? line = languageOfLine? (mark ++ label ++ ':' :: value) := by
    rcases written with rfl | rfl
    · rfl
    · exact ignoresBlanks_languageOfLine?.congr (trim_dropReturn _)
  obtain ⟨recognized, named, plain⟩ := recognized_of_normalizeKey known
  obtain ⟨uncut, undashed⟩ := not_mem_of_known known
  obtain ⟨cut, whole, trimmed, kept⟩ :=
    exists_unmarked value listed (mt trim_eq_nil_iff.mpr named) undashed
  have unbold : unboldLabel cut = trim label := by
    rw [← trimmed] at plain ⊢
    exact unboldLabel_eq_trim fun star => (plain _ star).2.1 rfl
  rw [same, languageOfLine?_eq_some_iff]
  refine ⟨cut, trimEnd value, whole, fun inside => uncut (kept inside), ?_, ?_, (trim_trimEnd value).symm⟩
  · rwa [unbold]
  · rwa [← trim_eq_nil_iff, trim_trimEnd, trim_eq_nil_iff]

/-! ### Lines with a marker -/

/-- The line starts like a section's marker or a title. -/
def Marked (line : List Char) : Prop :=
  ∃ c ∈ ['[', '#'], ∃ rest, line = c :: rest

theorem marked_of_opens {line : List Char} (opens : Opens line) : Marked line := by
  rcases opens with ⟨rest, rfl⟩ | ⟨rest, rfl⟩
  · exact ⟨'[', by simp, rest, rfl⟩
  · exact ⟨'#', by simp, "# ".toList ++ rest, rfl⟩

theorem marked_of_isTitle {line : List Char} (title : IsTitle line) : Marked line := by
  obtain ⟨rest, rfl⟩ := title
  exact ⟨'#', by simp, ' ' :: rest, rfl⟩

/-- Folding keeps the marker, and no label of the language starts with one. -/
theorem contains_foldLabel_marked {c : Char} (marker : c ∈ ['[', '#']) (label : List Char) :
    languageLabels.contains (foldLabel (c :: label)) = false := by
  obtain ⟨based, other, lowered, kept⟩ :
      baseLetter c = c ∧ c ≠ 'Σ' ∧ lowerForm c = [c] ∧ c ≠ '_' := by
    rcases List.mem_pair.mp marker with rfl | rfl <;> decide
  have others : ∀ l ∈ languageLabels, l.head? ≠ some c := by
    rcases List.mem_pair.mp marker with rfl | rfl <;> decide
  obtain ⟨forms, each, whole⟩ := lower_eq_flatten (stripAccents (c :: label))
  have first : (foldLabel (c :: label)).head? = some c := by
    rw [stripAccents, List.map_cons, based] at each
    cases each with
    | cons form _ =>
      rw [IsLowerForm, if_neg other, lowered] at form
      rw [foldLabel, whole, form]
      simp [kept]
  rw [← Bool.not_eq_true, List.contains_iff_mem]
  intro listed
  exact others _ listed first

theorem languageOfLine?_of_marked {line : List Char} (marked : Marked line) :
    languageOfLine? line = none := by
  obtain ⟨c, marker, rest, rfl⟩ := marked
  obtain ⟨ink, undashed, uncut, thin⟩ : isBlank c = false ∧ c ≠ '-' ∧ c ≠ ':' ∧ c ≠ '*' := by
    rcases List.mem_pair.mp marker with rfl | rfl <;> decide
  have unlisted : ∀ cs, "- ".toList.isPrefixOf? (c :: cs) = none := by
    simp [List.isPrefixOf?, Ne.symm undashed]
  have unbold : ∀ label, ∃ rest, unboldLabel (c :: label) = c :: rest := by
    intro label
    rw [unboldLabel, trim_cons ink, dropStart, List.dropWhile_cons_of_neg (by simp [thin]),
      dropEnd_cons (p := (· == '*')) (by simpa using thin), trim_cons ink]
    exact ⟨_, rfl⟩
  simp only [languageOfLine?, trim_cons ink, unlisted, Option.getD_none]
  split
  · rfl
  next label value found =>
    obtain ⟨cut, -⟩ := splitOnce_singleton_eq_some_iff.mp found
    cases label with
    | nil =>
      rw [List.nil_append, List.cons.injEq] at cut
      exact absurd cut.1 uncut
    | cons d label =>
      rw [List.cons_append, List.cons.injEq] at cut
      obtain ⟨rest, kept⟩ := unbold label
      rw [← cut.1, kept, contains_foldLabel_marked marker]
      rfl

/-! ### The section -/

theorem section?_parse {text title name : String} {passed others : List String}
    {header : List Char} {after : List (List Char)}
    (variants : titleVariants title = passed ++ name :: others) (named : name ≠ "")
    (absent : ∀ other ∈ passed, ∀ line ∈ lines text.toList, ¬ Names line other.toList)
    (last : IsLast (Names · name.toList) (lines text.toList) header after) :
    (Document.parse text).section? title = some (String.ofList (bodyOf after)) := by
  have none : passed.findSome? (SortedMap.ofList
      (Outline.ofLines (lines text.toList)).named).get? = none :=
    List.findSome?_eq_none_iff.mpr fun other listed => Outline.get?_eq_none (.inr (absent other listed))
  rw [Document.section?, Document.sectionIn?, sections_parse, variants, List.findSome?_append, none,
    Option.none_or, List.findSome?_cons, Outline.get?_of_isLast named last]

theorem ne_empty_of_mem_settingsVariants : ∀ name ∈ titleVariants settingsTitle, name ≠ "" := by
  decide +kernel

namespace LanguageChoice

variable {choice : LanguageChoice} {earlier : List (List Char)} {line : List Char}

/-- The line stands in the settings section of the configuration, behind these earlier ones. -/
inductive InSettings (choice : LanguageChoice) (earlier : List (List Char)) (line : List Char) : Prop
  /-- It stands in the text of the configuration, behind the last marker with the spelling of the title
  that comes first, and no other marker is between. -/
  | written {text name : String} {passed others : List String} {header : List Char}
      {rest : List (List Char)} (read : choice.configuration = Document.parse text)
      (variants : titleVariants settingsTitle = passed ++ name :: others)
      (absent : ∀ other ∈ passed, ∀ line ∈ lines text.toList, ¬ Names line other.toList)
      (last : IsLast (Names · name.toList) (lines text.toList) header (earlier ++ line :: rest))
      (between : ∀ other ∈ earlier, ¬ Opens other)
  /-- It is a line of the section's body. -/
  | held {body : String} {rest : List (List Char)}
      (found : choice.configuration.section? settingsTitle = some body)
      (cut : lines body.toList = earlier ++ line :: rest)

theorem findSome?_of_first {value : List Char} {rest : List (List Char)}
    (first : ∀ other ∈ earlier, languageOfLine? other = none)
    (states : languageOfLine? line = some value) :
    (earlier ++ line :: rest).findSome? languageOfLine? = some value := by
  rw [List.findSome?_append, List.findSome?_eq_none_iff.mpr first, Option.none_or, List.findSome?_cons,
    states]

theorem from?_settings_of_first {value : List Char}
    (first : ∀ other ∈ earlier, languageOfLine? other = none)
    (states : languageOfLine? line = some value) (settings : choice.InSettings earlier line) :
    choice.from? .settings = some (String.ofList value) := by
  suffices ∃ body, choice.configuration.section? settingsTitle = some body ∧
      (lines body.toList).findSome? languageOfLine? = some value by
    obtain ⟨body, found, stated⟩ := this
    rw [from?, found]
    exact congrArg (Option.map String.ofList) stated
  cases settings with
  | held found cut => exact ⟨_, found, by rw [cut, findSome?_of_first first states]⟩
  | @written text name passed others header rest read variants absent last between =>
    have named := ne_empty_of_mem_settingsVariants name (by simp [variants])
    refine ⟨_, by rw [read, section?_parse variants named absent last], ?_⟩
    have titles : ∀ line, IsTitle line → languageOfLine? line = none := fun _ title =>
      languageOfLine?_of_marked (marked_of_isTitle title)
    have oneLine : ∀ other ∈ earlier ++ line :: rest, '\n' ∉ other := by
      obtain ⟨before, whole, -, -⟩ := last
      intro other listed
      exact not_newline_mem_of_mem_lines (by rw [whole]; simp_all)
    -- A line that states a language opens no section, so it is not cut off.
    have silent : ¬ Opens line := by
      intro opens
      rw [languageOfLine?_of_marked (marked_of_opens opens)] at states
      cases states
    rw [String.toList_ofList, ignoresBlanks_languageOfLine?.findSome?_bodyOf titles oneLine,
      List.takeWhile_append_of_pos (by simpa using between),
      List.takeWhile_cons_of_pos (by simpa using silent), findSome?_of_first first states]

end LanguageChoice

/-- A label that stands for the language in a preamble stands for it in the settings: if the first line
there that states a language gives such a label a value, this is the language, unless the caller gives
one. -/
theorem language_of_knownLabel {choice : LanguageChoice} {label value line : List Char}
    {earlier : List (List Char)} (unset : ∀ s ∈ choice.explicit, Text.isBlank s = true)
    (known : normalizeKey (String.ofList label) = "linguagem") (filled : ¬ AllBlank value)
    (gives : GivesValue label value line) (first : ∀ other ∈ earlier, languageOfLine? other = none)
    (settings : choice.InSettings earlier line) :
    choice.winner? = some (.settings, String.ofList (trim value)) ∧
      choice.language = String.ofList (trim value) := by
  have silent : choice.from? .explicit = none := by
    simp only [LanguageChoice.from?, Option.bind_eq_none_iff]
    intro s given
    have blank : AllBlank s.toList := by
      simpa [Text.isBlank, AllBlank] using unset s given
    simp [nonBlankText?, nonBlank?, trim_eq_nil_iff.mpr blank]
  have stated := LanguageChoice.from?_settings_of_first first
    (languageOfLine?_of_givesValue known filled gives) settings
  have winner : choice.winner? = some (.settings, String.ofList (trim value)) := by
    simp [LanguageChoice.winner?, LanguageChoice.precedence, silent, stated]
  exact ⟨winner, by simp [LanguageChoice.language, winner]⟩

/-- A label in capitals in an item of a list, under the third spelling of the title. -/
theorem language_of_knownLabel_capitals :
    (normalizeKey (String.ofList "LINGUAGEM_PADRÃO ".toList) = "linguagem" ∧
        ¬ AllBlank " Go \r".toList ∧
        GivesValue "LINGUAGEM_PADRÃO ".toList " Go \r".toList "- LINGUAGEM_PADRÃO : Go ".toList ∧
        ∀ other ∈ ["Nota: x".toList], languageOfLine? other = none) ∧
      (LanguageChoice.mk none
          (Document.parse "## CONFIGURACOES\nNota: x\n- LINGUAGEM_PADRÃO : Go \r\n# Fim")
          "python").winner? = some (.settings, "Go") ∧
      (LanguageChoice.mk none
          (Document.parse "## CONFIGURACOES\nNota: x\n- LINGUAGEM_PADRÃO : Go \r\n# Fim")
          "python").language = "Go" := by
  have known : normalizeKey (String.ofList "LINGUAGEM_PADRÃO ".toList) = "linguagem" := by decide +kernel
  have filled : ¬ AllBlank " Go \r".toList := fun blank => absurd (blank 'G' (by simp)) (by decide)
  have gives : GivesValue "LINGUAGEM_PADRÃO ".toList " Go \r".toList "- LINGUAGEM_PADRÃO : Go ".toList :=
    ⟨"- ".toList, by simp, .inr (by decide)⟩
  have first : ∀ other ∈ ["Nota: x".toList], languageOfLine? other = none := by decide +kernel
  have variants : titleVariants settingsTitle =
      ["Configurações", "CONFIGURAÇÕES"] ++ "CONFIGURACOES" :: [] := by decide +kernel
  have absent : ∀ other ∈ ["Configurações", "CONFIGURAÇÕES"],
      ∀ line ∈ lines "## CONFIGURACOES\nNota: x\n- LINGUAGEM_PADRÃO : Go \r\n# Fim".toList,
        ¬ Names line other.toList := by
    simp only [← sectionName?_eq_some_iff]
    decide +kernel
  have last : IsLast (Names · "CONFIGURACOES".toList)
      (lines "## CONFIGURACOES\nNota: x\n- LINGUAGEM_PADRÃO : Go \r\n# Fim".toList)
      "## CONFIGURACOES".toList
      (["Nota: x".toList] ++ "- LINGUAGEM_PADRÃO : Go ".toList :: ["# Fim".toList]) := by
    refine ⟨[], by decide +kernel, sectionName?_eq_some_iff.mp (by decide), ?_⟩
    simp only [← sectionName?_eq_some_iff]
    decide
  exact ⟨⟨known, filled, gives, first⟩, language_of_knownLabel (by simp) known filled gives first
    (.written rfl variants absent last (by decide))⟩

end SpecPrompt
