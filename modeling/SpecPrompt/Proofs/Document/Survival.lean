import SpecPrompt.Proofs.Document.RoundTrip

/-!
# Sections that are read, written and read again

The sections of a parsed document are not far from plain: a title stands on one line, a body is
trimmed, and no line of a body but the first can be a title line, because title lines are left out
before the body is trimmed. So when no line of a body opens a section, only three things keep the
sections from being read back: a title that ends in a blank, a carriage return before a line feed in a
body, and a body that starts as a title line.

## Main result

`sections_survive_iff`: the sections that come back are the ones that were written exactly if none of
the three occurs.
-/

namespace SpecPrompt

open Chars

/-! ### What is read -/

namespace Outline

theorem mem_of_mem_ofLines {ls : List (List Char)} :
    (∀ line ∈ (ofLines ls).preamble, line ∈ ls) ∧
      ∀ b ∈ (ofLines ls).blocks, ∀ line ∈ b.lines, line ∈ ls := by
  induction ls with
  | nil => exact ⟨nofun, nofun⟩
  | cons l ls ih =>
    obtain ⟨before, behind⟩ := ih
    have later : ∀ b ∈ (ofLines ls).blocks, ∀ line ∈ b.lines, line ∈ l :: ls :=
      fun b block line held => List.mem_cons_of_mem _ (behind b block line held)
    rw [ofLines_cons]
    cases opening : sectionName? l with
    -- The lines before the first section become those of the new one.
    | some name =>
      rw [addLine_opening opening]
      refine ⟨nofun, fun b block line held => ?_⟩
      rcases List.mem_cons.mp block with rfl | block
      · exact List.mem_cons_of_mem _ (before line held)
      · exact later b block line held
    | none =>
      rw [addLine_other (sectionName?_eq_none_iff.mp opening)]
      refine ⟨fun line held => ?_, later⟩
      rcases List.mem_cons.mp held with rfl | held
      · exact List.mem_cons_self
      · exact List.mem_cons_of_mem _ (before line held)

end Outline

/-- No line of a body but the first is a title line. -/
theorem not_isInfix_body {b : SectionBlock} (h : ∀ line ∈ b.lines, '\n' ∉ line) :
    ¬ "\n# ".toList <:+: b.body := by
  intro inside
  let kept := b.lines.filter fun line => (titleText? line).isNone
  have untrimmed : '\n' :: "# ".toList <:+: joinLines kept := inside.trans (isInfix_trim _)
  obtain ⟨line, listed, title⟩ := (exists_line_iff (by decide)).mpr (.inr untrimmed)
  rcases eq_or_ne kept [] with none | some
  · rw [none] at listed
    obtain rfl : line = [] := by simpa [joinLines] using listed
    exact absurd title (by decide)
  · have oneLine : ∀ line ∈ kept, '\n' ∉ line := fun line held => h line (List.mem_filter.mp held).1
    rw [joinLines, List.splitOn_intercalate '\n' oneLine some] at listed
    exact titleText?_isNone_iff.mp (List.mem_filter.mp listed).2 title

theorem not_isInfix_of_mem_sections {text : String} {e : String × String}
    (h : e ∈ (Document.parse text).sections.toList) : ¬ "\n# ".toList <:+: e.2.toList := by
  rw [sections_parse] at h
  obtain ⟨b, listed, rfl⟩ := List.mem_map.mp (SortedMap.mem_of_mem_ofList h)
  have block := (List.mem_filter.mp listed).1
  have oneLine : ∀ line ∈ b.lines, '\n' ∉ line := fun line held =>
    not_newline_mem_of_mem_lines (Outline.mem_of_mem_ofLines.2 b block line held)
  have body : (String.ofList b.body).toList = b.body := String.toList_ofList
  dsimp only
  rw [body]
  exact not_isInfix_body oneLine

/-! ### What is read again -/

theorem sections_parse_parts {d : Document} (oneLine : ∀ e ∈ d.sections.toList, '\n' ∉ e.1.toList) :
    ∃ parts, List.Forall₂ StandsFor parts d.sections.toList ∧
      (Document.parse d.sectionsToText).sections =
        .ofList (parts.flatMap fun part => (Outline.ofLines part).named) := by
  obtain ⟨parts, cut, stand⟩ := lines_joinLines oneLine
  have text : d.sectionsToText.toList =
      joinLines (d.sections.toList.map fun e => Document.sectionText e.1 e.2) :=
    String.toList_ofList
  exact ⟨parts, stand, by rw [sections_parse, text, cut, named_ofLines_flatten stand]⟩

/-- If no line of a body opens a section, the sections of a parsed document are read back from their
text exactly if the titles are trimmed, no carriage return stands before a line feed in a
body, and no body starts as a title line. -/
theorem sections_survive_iff {text : String}
    (silent : ∀ e ∈ (Document.parse text).sections.toList,
      ∀ line ∈ e.2.toList.splitOn '\n', ¬ Opens line) :
    (Document.parse (Document.parse text).sectionsToText).sections =
        (Document.parse text).sections ↔
      ∀ e ∈ (Document.parse text).sections.toList,
        Text.trim e.1 = e.1 ∧ ¬ "\r\n".toList <:+: e.2.toList ∧ ¬ "# ".toList <+: e.2.toList := by
  have read : ∀ e ∈ (Document.parse text).sections.toList,
      e.1 ≠ "" ∧ '\n' ∉ e.1.toList ∧ Text.trim e.2 = e.2 :=
    fun e listed => of_mem_named (SortedMap.mem_of_mem_ofList listed)
  obtain ⟨parts, stand, again⟩ := sections_parse_parts fun e listed => (read e listed).2.1
  rw [again]
  constructor
  · intro same e listed
    -- Sections that come back have lost no ink.
    have noLess : inkOfPairs (Document.parse text).sections.toList ≤
        inkOfPairs (parts.flatMap fun part => (Outline.ofLines part).named) := by
      conv => lhs; rw [← same]
      exact SortedMap.sum_ofList_le _ _
    have keeps := (keepsInk_of_forall₂ stand fun e listed => (read e listed).2.1).2 noLess e listed
    refine ⟨trim_eq_iff.mpr keeps.trimmed,
      noReturn_of_splitOn fun line cut => (keeps.text line cut).2.2, fun title => ?_⟩
    obtain ⟨line, cut, title⟩ := (exists_line_iff (by decide)).mpr (.inl title)
    exact (keeps.text line cut).2.1 title
  · intro sound
    have plain : ∀ e ∈ (Document.parse text).sections.toList, PlainTitle e.1 ∧ PlainBody e.2 := by
      intro e listed
      obtain ⟨nonempty, oneLine, trimmed⟩ := read e listed
      obtain ⟨title, noReturn, untitled⟩ := sound e listed
      refine ⟨⟨nonempty, title, oneLine⟩, ⟨trimmed, noReturn, fun line cut => ?_⟩⟩
      refine ⟨silent e listed line cut, fun titled => ?_⟩
      rcases (exists_line_iff (by decide)).mp ⟨line, cut, titled⟩ with first | later
      · exact untitled first
      · exact not_isInfix_of_mem_sections listed later
    rw [named_of_forall₂_plain stand plain, SortedMap.ofList_toList]

/-- Both markers, and a body with blank lines around it. -/
theorem sections_survive_mixed :
    (∀ e ∈ (Document.parse "# T\nA: b\n[ B]\nintro\n\n## A\n\n- x\n  # y\n").sections.toList,
        ∀ line ∈ e.2.toList.splitOn '\n', ¬ Opens line) ∧
      (Document.parse (Document.parse
          "# T\nA: b\n[ B]\nintro\n\n## A\n\n- x\n  # y\n").sectionsToText).sections =
        (Document.parse "# T\nA: b\n[ B]\nintro\n\n## A\n\n- x\n  # y\n").sections := by
  have silent : ∀ e ∈ (Document.parse
      "# T\nA: b\n[ B]\nintro\n\n## A\n\n- x\n  # y\n").sections.toList,
      ∀ line ∈ e.2.toList.splitOn '\n', ¬ Opens line := by decide +kernel
  exact ⟨silent, (sections_survive_iff silent).mpr (by decide +kernel)⟩

/-- Sections that change although no line of a body opens a section: a title that ends in a blank, a
carriage return too many, and a body that starts as a title line. -/
theorem sections_change :
    ["[A ]\nx", "## A\nx\r\r\ny", "## A\n # x"].Forall fun text =>
      (∀ e ∈ (Document.parse text).sections.toList,
          ∀ line ∈ e.2.toList.splitOn '\n', ¬ Opens line) ∧
        (Document.parse (Document.parse text).sectionsToText).sections ≠
          (Document.parse text).sections := by
  decide +kernel

end SpecPrompt
