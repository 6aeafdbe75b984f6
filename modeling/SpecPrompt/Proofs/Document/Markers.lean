import SpecPrompt.Proofs.Document.RoundTrip

/-!
# The two markers of a section

A section is opened by a heading or by a name in brackets. Which of the two a line uses makes no
difference to the document, as long as no blank stands between the name and the closing bracket: a
heading loses that blank, and a name in brackets keeps it.

The line with the marker cuts its text in two. What stands before it and what stands behind it are
read as if each stood alone, except that the new section takes the lines up to the next marker.

## Main result

`parse_bracketed_eq_parse_heading`: both lines give the same document, and the section they open.
-/

namespace SpecPrompt

open Chars

/-! ### Names in brackets -/

theorem sectionName?_bracketed {s : List Char} (h : ']' ∉ s) :
    sectionName? ('[' :: (s ++ [']'])) = some (trimStart s) := by
  have kept : ']' ∉ trimStart s := fun inside => h ((List.dropWhile_suffix _).subset inside)
  -- The closing bracket is no blank, so it shields the blanks before it.
  have shielded : trim (s ++ [']']) = trimStart s ++ [']'] := by
    have ink : ¬ AllBlank [']'] := fun blank => absurd (blank ']' (by simp)) (by decide)
    by_cases blank : AllBlank s
    · have none : trimStart s = [] := List.dropWhile_eq_nil_iff.mpr blank
      rw [trim_blanks_append blank, none]
      rfl
    · rw [trim_append blank ink]
      rfl
  rw [sectionName?_bracket, shielded]
  exact congrArg some (dropEnd_append_replicate 1 fun last => kept (List.mem_of_getLast? last))

theorem trimStart_eq_trim {s : List Char} (h : AllBlank s ∨ trimEnd s = s) :
    trimStart s = trim s := by
  rcases h with blank | unpadded
  · have none : trimStart s = [] := List.dropWhile_eq_nil_iff.mpr blank
    rw [trim, none]
    rfl
  · refine (List.rdropWhile_eq_self_iff.mpr fun filled => ?_).symm
    -- What is left ends as the whole does.
    obtain ⟨before, whole⟩ : trimStart s <:+ s := List.dropWhile_suffix _
    have last : (trimEnd s).getLast? = some ((trimStart s).getLast filled) := by
      calc (trimEnd s).getLast? = (before ++ trimStart s).getLast? := by rw [unpadded, whole]
        _ = (trimStart s).getLast? := List.getLast?_append_of_ne_nil _ filled
        _ = some ((trimStart s).getLast filled) := List.getLast?_eq_some_getLast filled
    simp [isBlank_getLast_trimEnd last]

/-! ### A line within a text -/

/-- A text after which a line starts. -/
def EndsLine (cs : List Char) : Prop :=
  cs = [] ∨ cs.getLast? = some '\n'

/-- A line ending in front of some text. At the end of the text there need not be one. -/
def IsLineEnding (ending after : List Char) : Prop :=
  ending = ['\n'] ∨ ending = ['\r', '\n'] ∨ ending = [] ∧ after = []

instance (cs : List Char) : Decidable (EndsLine cs) :=
  inferInstanceAs (Decidable (_ ∨ _))

instance (ending after : List Char) : Decidable (IsLineEnding ending after) :=
  inferInstanceAs (Decidable (_ ∨ _ ∨ _ ∧ _))

theorem lines_append_of_endsLine {before : List Char} (h : EndsLine before) (cs : List Char) :
    lines (before ++ cs) = lines before ++ lines cs := by
  rcases h with rfl | last
  · rw [lines_nil, List.nil_append, List.nil_append]
  · obtain ⟨body, rfl⟩ := List.getLast?_eq_some_iff.mp last
    rw [List.append_assoc, List.singleton_append, lines_append_newline, lines_append_newline,
      lines_nil, List.append_nil]

theorem lines_line {line ending after : List Char} (filled : line ≠ []) (oneLine : '\n' ∉ line)
    (h : IsLineEnding ending after) :
    ∃ first, (first = line ∨ first = dropReturn line) ∧
      lines (line ++ ending ++ after) = first :: lines after := by
  rcases h with rfl | rfl | ⟨rfl, rfl⟩
  · refine ⟨dropReturn line, .inr rfl, ?_⟩
    rw [List.append_assoc, List.singleton_append, lines_cons_newline oneLine]
  · refine ⟨line, .inl rfl, ?_⟩
    have unbroken : '\n' ∉ line ++ ['\r'] := by simpa using oneLine
    have cut : line ++ ['\r', '\n'] ++ after = (line ++ ['\r']) ++ '\n' :: after := by simp
    rw [cut, lines_cons_newline unbroken, dropReturn_append_return]
  -- A line that nothing ends is taken as it is.
  · refine ⟨line, .inl rfl, ?_⟩
    rw [List.append_nil, List.append_nil, lines_nil, lines, List.splitOn_eq_singleton oneLine]
    cases line with
    | nil => exact absurd rfl filled
    | cons c cs => rfl

/-! ### A marker within a text -/

/-- The outline of a text around a line that opens a section, if a carriage return at the end of the
line would not change the section's name. -/
theorem ofLines_around {before line ending after name : List Char} (starts : EndsLine before)
    (ends : IsLineEnding ending after) (oneLine : '\n' ∉ line)
    (opens : sectionName? line = some name) (opens' : sectionName? (dropReturn line) = some name) :
    Outline.ofLines (lines (before ++ line ++ ending ++ after)) =
      ⟨(Outline.ofLines (lines before)).preamble, (Outline.ofLines (lines before)).blocks ++
        ⟨name, (Outline.ofLines (lines after)).preamble⟩ ::
          (Outline.ofLines (lines after)).blocks⟩ := by
  have filled : line ≠ [] := by
    rintro rfl
    cases opens
  obtain ⟨first, kept, cut⟩ := lines_line filled oneLine ends
  have named : sectionName? first = some name := by
    rcases kept with rfl | rfl
    · exact opens
    · exact opens'
  rw [List.append_assoc, List.append_assoc, ← List.append_assoc line,
    lines_append_of_endsLine starts, cut, Outline.ofLines_append_cons named]

theorem ofLines_around_heading {before s ending after : List Char} (starts : EndsLine before)
    (ends : IsLineEnding ending after) (oneLine : '\n' ∉ s) :
    Outline.ofLines (lines (before ++ ("## ".toList ++ s) ++ ending ++ after)) =
      ⟨(Outline.ofLines (lines before)).preamble, (Outline.ofLines (lines before)).blocks ++
        ⟨trim s, (Outline.ofLines (lines after)).preamble⟩ ::
          (Outline.ofLines (lines after)).blocks⟩ := by
  refine ofLines_around starts ends (by simpa using oneLine) (sectionName?_heading s) ?_
  rw [dropReturn_append (by decide), sectionName?_heading, trim_dropReturn]

theorem ofLines_around_bracketed {before s ending after : List Char} (starts : EndsLine before)
    (ends : IsLineEnding ending after) (oneLine : '\n' ∉ s) (noBracket : ']' ∉ s) :
    Outline.ofLines (lines (before ++ '[' :: (s ++ [']']) ++ ending ++ after)) =
      ⟨(Outline.ofLines (lines before)).preamble, (Outline.ofLines (lines before)).blocks ++
        ⟨trimStart s, (Outline.ofLines (lines after)).preamble⟩ ::
          (Outline.ofLines (lines after)).blocks⟩ := by
  have opens := sectionName?_bracketed noBracket
  have last : ('[' :: (s ++ [']'])).getLast? ≠ some '\r' := by
    rw [← List.cons_append, List.getLast?_concat]
    decide
  refine ofLines_around starts ends (by simpa using oneLine) opens ?_
  rw [dropReturn_eq_self last, opens]

/-- The sections of a text in which a line opens a section between what is before and behind it: those
before the line, the section itself unless it has no name, and those behind the line, of which a later
one counts. The section holds the lines up to the next marker. -/
def sectionsAround (before : String) (name : List Char) (after : String) :
    SortedMap String String :=
  let body := SectionBlock.body ⟨name, (Outline.ofLines (lines after.toList)).preamble⟩
  SortedMap.insertAll
    (if name = [] then (Document.parse before).sections
      else (Document.parse before).sections.insert (String.ofList name) (String.ofList body))
    (Document.parse after).sections.toList

theorem ofList_named_around (before after : String) (preamble : List (List Char))
    (name : List Char) :
    SortedMap.ofList (Outline.named ⟨preamble, (Outline.ofLines (lines before.toList)).blocks ++
        ⟨name, (Outline.ofLines (lines after.toList)).preamble⟩ ::
          (Outline.ofLines (lines after.toList)).blocks⟩) =
      sectionsAround before name after := by
  rw [Outline.named_append_cons, sectionsAround, sections_parse after, SortedMap.insertAll_toList_ofList,
    SortedMap.ofList, SortedMap.insertAll_append, SortedMap.insertAll_append]
  split <;> rfl

/-! ### Either marker -/

/-- The section that a heading line opens within a text, and the one that the same name in brackets
opens. The documents are the same if the name is blank or does not end in a blank. -/
theorem parse_bracketed_eq_parse_heading {before s ending after : String}
    (starts : EndsLine before.toList) (ends : IsLineEnding ending.toList after.toList)
    (noBracket : ']' ∉ s.toList) (oneLine : '\n' ∉ s.toList) :
    (Document.parse (before ++ "## " ++ s ++ ending ++ after)).sections =
        sectionsAround before (trim s.toList) after ∧
      (Document.parse (before ++ "[" ++ s ++ "]" ++ ending ++ after)).sections =
        sectionsAround before (trimStart s.toList) after ∧
      (Text.isBlank s = true ∨ Text.trimEnd s = s →
        Document.parse (before ++ "[" ++ s ++ "]" ++ ending ++ after) =
          Document.parse (before ++ "## " ++ s ++ ending ++ after)) := by
  have headingText : (before ++ "## " ++ s ++ ending ++ after).toList =
      before.toList ++ ("## ".toList ++ s.toList) ++ ending.toList ++ after.toList := by
    simp
  have bracketedText : (before ++ "[" ++ s ++ "]" ++ ending ++ after).toList =
      before.toList ++ '[' :: (s.toList ++ [']']) ++ ending.toList ++ after.toList := by
    simp
  -- Both outlines are the same but for the name of the section between the two parts.
  have heading := ofLines_around_heading starts ends oneLine
  have bracketed := ofLines_around_bracketed starts ends oneLine noBracket
  refine ⟨?_, ?_, fun unpadded => ?_⟩
  · rw [sections_parse, headingText, heading, ofList_named_around]
  · rw [sections_parse, bracketedText, bracketed, ofList_named_around]
  · have same : trimStart s.toList = trim s.toList := by
      refine trimStart_eq_trim (unpadded.imp List.all_eq_true.mp fun kept => ?_)
      rw [← String.toList_inj] at kept
      exact String.toList_ofList.symm.trans kept
    rw [Document.parse, Document.parse, bracketedText, headingText, bracketed, same, heading]

/-- The rules as a heading and in brackets, in a text with carriage returns. -/
theorem parse_bracketed_rules :
    (EndsLine "Autor: Ana\r\n".toList ∧ IsLineEnding "\r\n".toList "- a\n## B\n".toList ∧
        ']' ∉ "  Regras".toList ∧ '\n' ∉ "  Regras".toList) ∧
      (Document.parse ("Autor: Ana\r\n" ++ "[" ++ "  Regras" ++ "]" ++ "\r\n" ++
          "- a\n## B\n")).sections =
        sectionsAround "Autor: Ana\r\n" "Regras".toList "- a\n## B\n" ∧
      Document.parse ("Autor: Ana\r\n" ++ "[" ++ "  Regras" ++ "]" ++ "\r\n" ++ "- a\n## B\n") =
        Document.parse ("Autor: Ana\r\n" ++ "## " ++ "  Regras" ++ "\r\n" ++ "- a\n## B\n") := by
  have starts : EndsLine "Autor: Ana\r\n".toList := by decide
  have ends : IsLineEnding "\r\n".toList "- a\n## B\n".toList := by decide
  obtain ⟨_, bracketed, same⟩ := parse_bracketed_eq_parse_heading (s := "  Regras") starts ends
    (by decide) (by decide)
  have name : trimStart "  Regras".toList = "Regras".toList := by decide
  rw [name] at bracketed
  exact ⟨⟨starts, ends, by decide, by decide⟩, bracketed, same (.inr (by decide))⟩

/-- A blank before the closing bracket stays in the name, which makes the section another one. -/
theorem parse_bracketed_padded :
    ']' ∉ "A ".toList ∧ '\n' ∉ "A ".toList ∧
      (Document.parse ("[" ++ "A " ++ "]" ++ "\n" ++ "x")).sections.toList = [("A ", "x")] ∧
      (Document.parse ("## " ++ "A " ++ "\n" ++ "x")).sections.toList = [("A", "x")] ∧
      Document.parse ("[" ++ "A " ++ "]" ++ "\n" ++ "x") ≠
        Document.parse ("## " ++ "A " ++ "\n" ++ "x") := by
  decide +kernel

end SpecPrompt
