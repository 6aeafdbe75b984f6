import Mathlib.Data.List.Infix
import SpecPrompt.Document.Outline
import SpecPrompt.Proofs.Text.Lines

/-!
# The theory of outlines

Which lines open a section, which are titles, and how the outline of some lines is put together
from the outlines of its parts: a part that starts with a line opening a section can be read on
its own.
-/

namespace SpecPrompt

open Chars

/-! ### Markers -/

/-- A line that opens a section. -/
def Opens (line : List Char) : Prop :=
  "[".toList <+: line ∨ "## ".toList <+: line

/-- A title line, which no section's body holds. -/
def IsTitle (line : List Char) : Prop :=
  "# ".toList <+: line

instance (line : List Char) : Decidable (Opens line) :=
  inferInstanceAs (Decidable (_ ∨ _))

instance (line : List Char) : Decidable (IsTitle line) :=
  inferInstanceAs (Decidable (_ <+: _))

private theorem isPrefixOf?_isSome_iff {start line : List Char} :
    (start.isPrefixOf? line).isSome = true ↔ start <+: line := by
  rw [List.isSome_isPrefixOf?_eq_isPrefixOf, List.isPrefixOf_iff_prefix]

theorem sectionName?_bracket (rest : List Char) :
    sectionName? ('[' :: rest) = some (dropEnd (· == ']') (trim rest)) := rfl

theorem sectionName?_heading (rest : List Char) :
    sectionName? ("## ".toList ++ rest) = some (trim rest) := by
  simp [sectionName?, List.isPrefixOf?]

theorem sectionName?_isSome_iff {line : List Char} :
    (sectionName? line).isSome = true ↔ Opens line := by
  unfold sectionName? Opens
  split
  next rest => simp
  -- Without a bracket only the other marker is left.
  next bracketless =>
    rw [Option.isSome_map, isPrefixOf?_isSome_iff]
    refine ⟨.inr, ?_⟩
    rintro (⟨rest, rfl⟩ | heading)
    · exact absurd rfl (bracketless rest)
    · exact heading

theorem sectionName?_eq_none_iff {line : List Char} : sectionName? line = none ↔ ¬ Opens line := by
  rw [← sectionName?_isSome_iff, Option.not_isSome_iff_eq_none]

theorem titleText?_isNone_iff {line : List Char} :
    (titleText? line).isNone = true ↔ ¬ IsTitle line := by
  rw [titleText?, Option.isNone_map, ← Option.not_isSome, Bool.not_eq_true', ← Bool.not_eq_true,
    isPrefixOf?_isSome_iff, IsTitle]

/-- The name that a line gives a section stands in the line. -/
theorem isNone_titleText? :
    (fun line => (titleText? line).isNone) = fun line => decide (¬ IsTitle line) := by
  funext line
  rw [Bool.eq_iff_iff, titleText?_isNone_iff, decide_eq_true_iff]

theorem isInfix_sectionName {line name : List Char} (h : sectionName? line = some name) :
    name <:+: line := by
  rcases sectionName?_isSome_iff.mp (by rw [h]; rfl) with ⟨rest, rfl⟩ | ⟨rest, rfl⟩
  · have cut : dropEnd (· == ']') (trim rest) = name := by simpa [sectionName?_bracket] using h
    have kept : name <:+: trim rest := cut ▸ (List.rdropWhile_prefix _ _).isInfix
    exact kept.trans ((isInfix_trim rest).trans (List.suffix_append _ rest).isInfix)
  · rw [sectionName?_heading, Option.some.injEq] at h
    exact h ▸ (isInfix_trim rest).trans (List.suffix_append _ rest).isInfix

/-- A carriage return at the end of a line does not change what the line opens. -/
theorem opens_dropReturn_iff {line : List Char} : Opens (dropReturn line) ↔ Opens line := by
  rw [Opens, Opens, prefix_dropReturn_iff (by decide), prefix_dropReturn_iff (by decide)]

theorem isTitle_dropReturn_iff {line : List Char} : IsTitle (dropReturn line) ↔ IsTitle line :=
  prefix_dropReturn_iff (by decide)

/-! ### Outlines of parts -/

namespace Outline

theorem ofLines_cons (line : List Char) (ls : List (List Char)) :
    ofLines (line :: ls) = (ofLines ls).addLine line := rfl

theorem addLine_opening {line name : List Char} (h : sectionName? line = some name) (o : Outline) :
    o.addLine line = ⟨[], ⟨name, o.preamble⟩ :: o.blocks⟩ := by
  rw [addLine, h]

theorem addLine_other {line : List Char} (h : ¬ Opens line) (o : Outline) :
    o.addLine line = ⟨line :: o.preamble, o.blocks⟩ := by
  rw [addLine, sectionName?_eq_none_iff.mpr h]

/-- Lines that open no section go before everything else. -/
theorem ofLines_append_of_not_opens {ls : List (List Char)} (h : ∀ line ∈ ls, ¬ Opens line)
    (ms : List (List Char)) :
    ofLines (ls ++ ms) = ⟨ls ++ (ofLines ms).preamble, (ofLines ms).blocks⟩ := by
  induction ls with
  | nil => rfl
  | cons l ls ih =>
    have rest := ih fun line hline => h line (by simp [hline])
    rw [List.cons_append, ofLines_cons, rest, addLine_other (h l (by simp))]
    rfl

theorem ofLines_of_not_opens {ls : List (List Char)} (h : ∀ line ∈ ls, ¬ Opens line) :
    ofLines ls = ⟨ls, []⟩ := by
  have alone := ofLines_append_of_not_opens h []
  rw [List.append_nil] at alone
  rw [alone]
  simp [ofLines]

/-- Behind any lines, what starts with a section keeps its sections. -/
theorem ofLines_append_of_preamble_nil (ls : List (List Char)) {ms : List (List Char)}
    (h : (ofLines ms).preamble = []) :
    ofLines (ls ++ ms) = ⟨(ofLines ls).preamble, (ofLines ls).blocks ++ (ofLines ms).blocks⟩ := by
  induction ls with
  | nil => exact Outline.ext h rfl
  | cons l ls ih =>
    rw [List.cons_append, ofLines_cons, ih, ofLines_cons]
    cases opening : sectionName? l with
    | some name => simp [addLine_opening opening]
    | none => simp [addLine_other (sectionName?_eq_none_iff.mp opening)]

/-- The outline around a line that opens a section. -/
theorem ofLines_append_cons {header name : List Char} (opening : sectionName? header = some name)
    (before after : List (List Char)) :
    ofLines (before ++ header :: after) =
      ⟨(ofLines before).preamble,
        (ofLines before).blocks ++ ⟨name, (ofLines after).preamble⟩ :: (ofLines after).blocks⟩ := by
  have behind : ofLines (header :: after) =
      ⟨[], ⟨name, (ofLines after).preamble⟩ :: (ofLines after).blocks⟩ := by
    rw [ofLines_cons, addLine_opening opening]
  rw [ofLines_append_of_preamble_nil before (by rw [behind]), behind]

theorem exists_sectionName_of_mem_blocks {ls : List (List Char)} {b : SectionBlock}
    (h : b ∈ (ofLines ls).blocks) : ∃ line ∈ ls, sectionName? line = some b.name := by
  induction ls with
  | nil => simp [ofLines] at h
  | cons l ls ih =>
    have later : b ∈ (ofLines ls).blocks → ∃ line ∈ l :: ls, sectionName? line = some b.name := by
      intro h
      obtain ⟨line, hline, named⟩ := ih h
      exact ⟨line, List.mem_cons_of_mem _ hline, named⟩
    rw [ofLines_cons] at h
    -- Only a line that opens a section adds a block, and the block has that line's name.
    cases opening : sectionName? l with
    | some name =>
      rw [addLine_opening opening] at h
      rcases List.mem_cons.mp h with rfl | h
      · exact ⟨l, by simp, opening⟩
      · exact later h
    | none =>
      rw [addLine_other (sectionName?_eq_none_iff.mp opening)] at h
      exact later h

/-- Lines that make no section open none. -/
theorem not_opens_of_blocks_nil {ls : List (List Char)} (h : (ofLines ls).blocks = []) :
    (∀ line ∈ ls, ¬ Opens line) ∧ (ofLines ls).preamble = ls := by
  induction ls with
  | nil => simp [ofLines]
  | cons l ls ih =>
    rw [ofLines_cons] at h ⊢
    cases opening : sectionName? l with
    | some name => simp [addLine_opening opening] at h
    | none =>
      have silent := sectionName?_eq_none_iff.mp opening
      rw [addLine_other silent] at h ⊢
      obtain ⟨others, preamble⟩ := ih h
      refine ⟨fun line hline => ?_, congrArg (l :: ·) preamble⟩
      rcases List.mem_cons.mp hline with rfl | hline
      · exact silent
      · exact others line hline

/-- The sections of parts each of which starts with a section. -/
theorem ofLines_flatten {parts : List (List (List Char))}
    (h : ∀ part ∈ parts, (ofLines part).preamble = []) :
    ofLines parts.flatten = ⟨[], parts.flatMap fun part => (ofLines part).blocks⟩ := by
  induction parts with
  | nil => rfl
  | cons part parts ih =>
    have rest := ih fun part hpart => h part (by simp [hpart])
    -- What follows starts with a section too, so the part can be read on its own.
    have start : (ofLines parts.flatten).preamble = [] := by rw [rest]
    rw [List.flatten_cons, ofLines_append_of_preamble_nil part start, rest, h part (by simp)]
    rfl

end Outline

end SpecPrompt
