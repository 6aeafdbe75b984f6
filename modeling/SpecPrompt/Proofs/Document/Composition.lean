import SpecPrompt.Proofs.Document.Endings

/-!
# Texts one after another

A text that starts with a line opening a section can be put behind any other. Its first line closes what
is open there, so none of its lines gets into a section of the text before. All it does to the sections
there is to replace the ones whose names it gives again.

At the seam the text before gets a line feed. Its last line may lose a carriage return by that, or an empty
line may follow it. No section shows either of them.

## Main result

`sections_parse_append`: the sections of the whole are those of the text before with those of the text
behind put over them.
-/

namespace SpecPrompt

open Chars

/-! ### The seam -/

/-- The line feed at the seam belongs to the lines before it. -/
theorem lines_append_seam (cs ds : List Char) :
    lines (cs ++ '\n' :: ds) = lines (cs ++ ['\n']) ++ lines ds := by
  rw [lines_append_newline, lines_append_newline, lines_nil, List.append_nil]

/-- A line feed at the end changes no section. -/
theorem sections_lines_newline (cs : List Char) :
    (Outline.ofLines (lines (cs ++ ['\n']))).sections = (Outline.ofLines (lines cs)).sections := by
  rcases lines_append_singleton_newline cs with ⟨ls, last, alone, ended⟩ | ended
  -- The last line is ended by it, and may lose a carriage return.
  · rw [alone, ended]
    exact (congrArg Document.sections ((SameEnd.last last).ofOutline_append ls)).symm
  -- The last line was ended before, so another one follows, which is empty.
  · have same := congrArg Document.sections (SameEnd.blank.ofOutline_append (lines cs))
    rw [List.append_nil] at same
    rw [ended]
    exact same

/-! ### Outlines one after another -/

namespace Outline

variable {ls ms : List (List Char)}

theorem preamble_eq_nil_of_opens {header : List Char} (first : ms.head? = some header)
    (opens : Opens header) : (ofLines ms).preamble = [] := by
  obtain ⟨rest, rfl⟩ := List.head?_eq_some_iff.mp first
  rw [preamble_ofLines, List.takeWhile_cons_of_neg]
  simpa using opens

/-- Where a section is opened, what follows names its own sections. -/
theorem named_ofLines_append (closed : (ofLines ms).preamble = []) :
    (ofLines (ls ++ ms)).named = (ofLines ls).named ++ (ofLines ms).named := by
  rw [ofLines_append_of_preamble_nil ls closed]
  simp [named]

theorem sections_ofLines_append (closed : (ofLines ms).preamble = []) :
    (ofLines (ls ++ ms)).sections = (ofLines ls).sections.insertAll (ofLines ms).sections.toList :=
  calc (ofLines (ls ++ ms)).sections
      = .ofList (ofLines (ls ++ ms)).named := rfl
    _ = .ofList ((ofLines ls).named ++ (ofLines ms).named) := by rw [named_ofLines_append closed]
    _ = (ofLines ls).sections.insertAll (ofLines ms).sections.toList := SortedMap.ofList_append _ _

end Outline

/-! ### Two texts -/

/-- Behind any text, one that starts with a line opening a section keeps its sections. Of the other text's
sections it leaves those alone whose names none of its lines gives. -/
theorem sections_parse_append {a b : String} {header : List Char}
    (first : (lines b.toList).head? = some header) (opens : Opens header) :
    (Document.parse (a ++ "\n" ++ b)).sections =
        (Document.parse a).sections.insertAll (Document.parse b).sections.toList ∧
      ∀ title, (∀ line ∈ lines b.toList, ¬ Names line title.toList) →
        (Document.parse (a ++ "\n" ++ b)).sections.get? title =
          (Document.parse a).sections.get? title := by
  have closed := Outline.preamble_eq_nil_of_opens first opens
  have whole : (Document.parse (a ++ "\n" ++ b)).sections =
      (Document.parse a).sections.insertAll (Document.parse b).sections.toList := by
    have seam : (a ++ "\n" ++ b).toList = a.toList ++ '\n' :: b.toList := by simp
    have parts : (Document.parse (a ++ "\n" ++ b)).sections =
        (Outline.ofLines (lines (a.toList ++ ['\n']) ++ lines b.toList)).sections := by
      rw [← lines_append_seam, ← seam]
      rfl
    rw [parts, Outline.sections_ofLines_append closed, sections_lines_newline]
    rfl
  refine ⟨whole, fun title unnamed => ?_⟩
  have absent : (Document.parse b).sections.get? title = none :=
    Outline.get?_eq_none (.inr unnamed)
  have behind : (SortedMap.ofList (Document.parse b).sections.toList).get? title = none := by
    rw [SortedMap.ofList_toList, absent]
  rw [whole, SortedMap.get?_insertAll, ← SortedMap.get?_ofList, behind, Option.none_or]

/-- The text before ends in an open section and a carriage return. The one behind gives the name of an
earlier section again, and then a section no name. -/
theorem sections_parse_append_reopened :
    ((lines "[A]]\nz\n[]\nlost".toList).head? = some "[A]]".toList ∧ Opens "[A]]".toList ∧
        ∀ line ∈ lines "[A]]\nz\n[]\nlost".toList, ¬ Names line "B".toList) ∧
      (Document.parse ("## A\nx\n## B\ny\r" ++ "\n" ++ "[A]]\nz\n[]\nlost")).sections =
        (Document.parse "## A\nx\n## B\ny\r").sections.insertAll
          (Document.parse "[A]]\nz\n[]\nlost").sections.toList ∧
      (Document.parse ("## A\nx\n## B\ny\r" ++ "\n" ++ "[A]]\nz\n[]\nlost")).sections.get? "B" =
        some "y" := by
  have first : (lines "[A]]\nz\n[]\nlost".toList).head? = some "[A]]".toList := by decide
  have opens : Opens "[A]]".toList := by decide
  have unnamed : ∀ line ∈ lines "[A]]\nz\n[]\nlost".toList, ¬ Names line "B".toList := by
    simp only [← sectionName?_eq_some_iff]
    decide
  have before : (Document.parse "## A\nx\n## B\ny\r").sections.get? "B" = some "y" := by
    decide
  obtain ⟨whole, kept⟩ := sections_parse_append (a := "## A\nx\n## B\ny\r") first opens
  exact ⟨⟨first, opens, unnamed⟩, whole, (kept "B" unnamed).trans before⟩

end SpecPrompt
