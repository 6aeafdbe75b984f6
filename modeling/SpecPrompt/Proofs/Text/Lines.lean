import SpecPrompt.Proofs.Text.Trimming
import SpecPrompt.Text.Lines

/-!
# Cutting texts into lines

Lines are cut independently: what stands before a line feed is cut without regard to what follows
it. So lines that are written out one after another, each with its line feed, are read back, up to
a carriage return at the end of each.
-/

namespace SpecPrompt.Chars

/-! ### Cutting at separators -/

theorem not_mem_of_mem_splitOn {separator : Char} {cs piece : List Char}
    (h : piece ∈ cs.splitOn separator) : separator ∉ piece := by
  induction cs generalizing piece with
  | nil =>
    have : piece = [] := by simpa using h
    simp [this]
  | cons c cs ih =>
    rw [List.splitOn_cons_eq_if_modifyHead] at h
    split at h
    · rcases List.mem_cons.mp h with rfl | h
      · simp
      · exact ih h
    -- Any other character goes to the first piece of the rest.
    next other =>
      obtain ⟨first, rest, cut⟩ := List.exists_cons_of_ne_nil (List.splitOn_ne_nil separator cs)
      rw [cut, List.modifyHead_cons] at h
      rcases List.mem_cons.mp h with rfl | h
      · have := @ih first (by simp [cut])
        simp only [beq_iff_eq] at other
        simp [this, Ne.symm other]
      · exact ih (by simp [cut, h])

@[simp] theorem joinLines_splitOn (cs : List Char) : joinLines (cs.splitOn '\n') = cs :=
  List.intercalate_splitOn '\n'

theorem mem_of_mem_intercalate {c : Char} {separator : List Char} {texts : List (List Char)}
    (h : c ∈ separator.intercalate texts) : c ∈ separator ∨ ∃ text ∈ texts, c ∈ text := by
  induction texts with
  | nil => simp at h
  | cons text texts ih =>
    rcases eq_or_ne texts [] with rfl | more
    · exact .inr ⟨text, by simp, by simpa using h⟩
    · rw [List.intercalate_cons_of_ne_nil more, List.mem_append, List.mem_append] at h
      rcases h with (inside | between) | later
      · exact .inr ⟨text, by simp, inside⟩
      · exact .inl between
      · rcases ih later with between | ⟨other, listed, inside⟩
        · exact .inl between
        · exact .inr ⟨other, by simp [listed], inside⟩

theorem mem_intercalate_of_mem {c : Char} {separator text : List Char} {texts : List (List Char)}
    (listed : text ∈ texts) (inside : c ∈ text) : c ∈ separator.intercalate texts := by
  induction texts with
  | nil => cases listed
  | cons first texts ih =>
    rcases eq_or_ne texts [] with rfl | more
    · obtain rfl := List.mem_singleton.mp listed
      simpa using inside
    · rw [List.intercalate_cons_of_ne_nil more]
      rcases List.mem_cons.mp listed with rfl | later
      · simp [inside]
      · simp [ih later]

theorem mem_of_mem_splitOn {c separator : Char} {cs piece : List Char}
    (listed : piece ∈ cs.splitOn separator) (inside : c ∈ piece) : c ∈ cs := by
  have whole : [separator].intercalate (cs.splitOn separator) = cs := List.intercalate_splitOn separator
  rw [← whole]
  exact mem_intercalate_of_mem listed inside

/-- The last piece of a text and the first piece of what follows it are one piece. -/
theorem exists_splitOn_append (separator : Char) (cs ds : List Char) :
    ∃ ls last first rest, cs.splitOn separator = ls ++ [last] ∧
      ds.splitOn separator = first :: rest ∧
      (cs ++ ds).splitOn separator = ls ++ (last ++ first) :: rest := by
  obtain ⟨first, rest, behind⟩ := List.exists_cons_of_ne_nil (List.splitOn_ne_nil separator ds)
  suffices ∃ ls last, cs.splitOn separator = ls ++ [last] ∧
      (cs ++ ds).splitOn separator = ls ++ (last ++ first) :: rest by
    obtain ⟨ls, last, pieces, whole⟩ := this
    exact ⟨ls, last, first, rest, pieces, behind, whole⟩
  induction cs with
  | nil => exact ⟨[], [], by simp, by simp [behind]⟩
  | cons c cs ih =>
    obtain ⟨ls, last, pieces, whole⟩ := ih
    rw [List.cons_append, List.splitOn_cons_eq_if_modifyHead, List.splitOn_cons_eq_if_modifyHead,
      pieces, whole]
    by_cases ends : c = separator
    · exact ⟨[] :: ls, last, by simp [ends], by simp [ends]⟩
    · cases ls with
      | nil => exact ⟨[], c :: last, by simp [ends], by simp [ends]⟩
      | cons l ls => exact ⟨(c :: l) :: ls, last, by simp [ends], by simp [ends]⟩

/-! ### Carriage returns -/

theorem dropReturn_append_return (cs : List Char) : dropReturn (cs ++ ['\r']) = cs := by
  simp [dropReturn]

theorem dropReturn_eq_self {cs : List Char} (h : cs.getLast? ≠ some '\r') : dropReturn cs = cs :=
  if_neg h

theorem isPrefix_dropReturn (cs : List Char) : dropReturn cs <+: cs := by
  rw [dropReturn]
  split
  · exact List.dropLast_prefix cs
  · exact List.prefix_rfl

/-- A carriage return is cut off, or nothing is. -/
theorem dropReturn_cases (cs : List Char) :
    dropReturn cs = cs ∨ cs = dropReturn cs ++ ['\r'] := by
  by_cases h : cs.getLast? = some '\r'
  · right
    rw [dropReturn, if_pos h]
    have nonempty : cs ≠ [] := by
      rintro rfl
      simp at h
    have last : cs.getLast nonempty = '\r' := by
      simpa [List.getLast?_eq_some_getLast nonempty] using h
    rw [← last, List.dropLast_concat_getLast]
  · exact .inl (dropReturn_eq_self h)

theorem dropReturn_append {start : List Char} (h : start.getLast? ≠ some '\r') (cs : List Char) :
    dropReturn (start ++ cs) = start ++ dropReturn cs := by
  -- Only the last character decides, so the list is taken apart there.
  rcases List.eq_nil_or_concat cs with rfl | ⟨cs, c, rfl⟩
  · simp [dropReturn, h]
  · simp only [dropReturn, List.concat_eq_append, ← List.append_assoc, List.getLast?_concat,
      List.dropLast_concat]
    split <;> simp

/-- A carriage return at the end goes with the blanks there. -/
@[simp] theorem trim_dropReturn (cs : List Char) : trim (dropReturn cs) = trim cs := by
  rcases dropReturn_cases cs with same | cut
  · rw [same]
  · rw [cut, dropReturn_append_return, trim_append_blanks (allBlank_singleton rfl)]

/-- A prefix without a carriage return is one whether or not one is dropped behind it. -/
theorem prefix_dropReturn_iff {start cs : List Char} (h : '\r' ∉ start) :
    start <+: dropReturn cs ↔ start <+: cs := by
  constructor
  · exact fun kept => kept.trans (isPrefix_dropReturn cs)
  · intro before
    rcases dropReturn_cases cs with same | cut
    · rwa [same]
    -- A prefix of `cs` that is none of what is kept would hold the carriage return.
    · rw [cut] at before
      rcases List.prefix_concat_iff.mp before with all | kept
      · exact absurd (by simp [all]) h
      · exact kept

/-! ### Lines -/

/-- The lines before a line feed and the lines after it. -/
theorem lines_append_newline (before after : List Char) :
    lines (before ++ '\n' :: after) = (before.splitOn '\n').map dropReturn ++ lines after := by
  have nonempty := List.splitOn_ne_nil '\n' after
  simp only [lines, List.splitOn_append_cons_self]
  rw [List.dropLast_append_of_ne_nil nonempty, List.map_append, List.append_assoc]
  congr 2
  simp [List.getLastD_eq_getLast?, List.getLast?_append_of_ne_nil _ nonempty]

theorem lines_cons_newline {line : List Char} (oneLine : '\n' ∉ line) (rest : List Char) :
    lines (line ++ '\n' :: rest) = dropReturn line :: lines rest := by
  rw [lines_append_newline, List.splitOn_eq_singleton oneLine]
  rfl

/-- The pieces between line feeds are the lines, but the last one only if it is not empty. -/
theorem exists_lines_eq (cs : List Char) :
    ∃ ls last, cs.splitOn '\n' = ls ++ [last] ∧
      lines cs = ls.map dropReturn ++ if last = [] then [] else [last] := by
  obtain ⟨ls, last, pieces⟩ : ∃ ls last, cs.splitOn '\n' = ls ++ [last] :=
    ⟨_, _, (List.dropLast_concat_getLast (List.splitOn_ne_nil '\n' cs)).symm⟩
  refine ⟨ls, last, pieces, ?_⟩
  simp only [lines, pieces, List.dropLast_concat, List.getLastD_concat]
  cases last <;> rfl

theorem lines_nil : lines [] = [] := by
  simp [lines]

/-- `ls` written one after another, each with a line feed at its end. -/
def endLines (ls : List (List Char)) : List Char :=
  ls.flatMap fun line => line ++ ['\n']

theorem endLines_append (ls ms : List (List Char)) :
    endLines (ls ++ ms) = endLines ls ++ endLines ms := by
  simp [endLines]

theorem endLines_eq_joinLines {ls : List (List Char)} (nonempty : ls ≠ []) :
    endLines ls = joinLines ls ++ ['\n'] := by
  induction ls with
  | nil => exact absurd rfl nonempty
  | cons l ls ih =>
    cases ls with
    | nil => simp [endLines, joinLines]
    | cons m ls =>
      have rest := ih (by simp)
      simp only [endLines, joinLines, List.flatMap_cons, List.intercalate_cons_cons] at rest ⊢
      simp [rest]

theorem endLines_splitOn (cs : List Char) : endLines (cs.splitOn '\n') = cs ++ ['\n'] := by
  rw [endLines_eq_joinLines (List.splitOn_ne_nil '\n' cs), joinLines_splitOn]

/-- Trimmed lines do not show whether the last one was ended. -/
theorem trim_joinLines (ls : List (List Char)) : trim (joinLines ls) = trim (endLines ls) := by
  cases ls with
  | nil => rfl
  | cons l ls =>
    rw [endLines_eq_joinLines (by simp), trim_append_blanks (allBlank_singleton rfl)]

/-- What holds no separator goes to the first piece of what follows it. -/
theorem splitOn_append_of_not_mem {separator : Char} {start : List Char} (h : separator ∉ start)
    (cs : List Char) :
    ∃ first rest, cs.splitOn separator = first :: rest ∧
      (start ++ cs).splitOn separator = (start ++ first) :: rest := by
  obtain ⟨ls, last, first, rest, alone, behind, whole⟩ := exists_splitOn_append separator start cs
  -- It is one piece, so there are no others in front of its last one.
  rw [List.splitOn_eq_singleton h, eq_comm, List.append_eq_singleton_iff] at alone
  obtain ⟨rfl, same⟩ | ⟨_, none⟩ := alone
  · rw [List.singleton_inj.mp same] at whole
    exact ⟨first, rest, behind, whole⟩
  · cases none

/-- Characters start a line if they start the text or stand behind a line feed. -/
theorem exists_line_iff {start cs : List Char} (h : '\n' ∉ start) :
    (∃ line ∈ cs.splitOn '\n', start <+: line) ↔ start <+: cs ∨ '\n' :: start <:+: cs := by
  constructor
  · rintro ⟨line, listed, rest, rfl⟩
    obtain ⟨ls, ms, pieces⟩ := List.append_of_mem listed
    have whole : cs ++ ['\n'] = endLines ls ++ (start ++ rest) ++ '\n' :: endLines ms := by
      rw [← endLines_splitOn, pieces, endLines_append]
      simp [endLines]
    -- The line is the first one, or a line feed ends the one before it.
    rcases List.eq_nil_or_concat ls with rfl | ⟨ls, l, rfl⟩
    · left
      have early : start <+: cs ++ ['\n'] := ⟨rest ++ '\n' :: endLines ms, by
        rw [whole]
        simp [endLines]⟩
      rcases List.prefix_concat_iff.mp early with all | early
      · exact absurd (by simp [all]) h
      · exact early
    · right
      have cut : cs ++ ['\n'] = (endLines ls ++ l ++ '\n' :: start) ++
          (rest ++ '\n' :: endLines ms) := by
        rw [whole, List.concat_eq_append, endLines_append]
        simp [endLines]
      have shorter := congrArg List.dropLast cut
      rw [List.dropLast_concat, List.dropLast_append_of_ne_nil (by simp)] at shorter
      exact ⟨endLines ls ++ l, _, shorter.symm⟩
  · rintro (⟨rest, rfl⟩ | ⟨before, rest, rfl⟩)
    · obtain ⟨first, later, _, cut⟩ := splitOn_append_of_not_mem h rest
      exact ⟨start ++ first, by simp [cut], List.prefix_append _ _⟩
    · obtain ⟨first, later, _, cut⟩ := splitOn_append_of_not_mem h rest
      refine ⟨start ++ first, ?_, List.prefix_append _ _⟩
      rw [List.append_assoc, List.cons_append, List.splitOn_append_cons_self, cut]
      simp

/-- Lines that are written out are read back, without the carriage returns at their ends, and what
follows them is read as if it stood alone. -/
theorem lines_endLines_append {ls : List (List Char)} (h : ∀ line ∈ ls, '\n' ∉ line)
    (rest : List Char) : lines (endLines ls ++ rest) = ls.map dropReturn ++ lines rest := by
  induction ls with
  | nil => rfl
  | cons l ls ih =>
    have first : '\n' ∉ l := h l (by simp)
    have written : endLines (l :: ls) ++ rest = l ++ '\n' :: (endLines ls ++ rest) := by
      simp [endLines]
    rw [written, lines_cons_newline first, ih fun line hline => h line (by simp [hline])]
    rfl

theorem lines_endLines {ls : List (List Char)} (h : ∀ line ∈ ls, '\n' ∉ line) :
    lines (endLines ls) = ls.map dropReturn := by
  simpa [lines_nil] using lines_endLines_append h []

theorem not_newline_mem_of_mem_lines {cs line : List Char} (h : line ∈ lines cs) :
    '\n' ∉ line := by
  obtain ⟨ls, last, pieces, whole⟩ := exists_lines_eq cs
  have ofPiece : ∀ piece ∈ ls ++ [last], '\n' ∉ piece := fun piece listed =>
    not_mem_of_mem_splitOn (pieces ▸ listed)
  rw [whole] at h
  -- The lines that a line feed ends have lost a carriage return; the last one is a whole piece.
  rcases List.mem_append.mp h with h | h
  · obtain ⟨piece, listed, rfl⟩ := List.mem_map.mp h
    exact fun newline => ofPiece piece (by simp [listed]) ((isPrefix_dropReturn piece).subset newline)
  · split at h
    · simp at h
    · obtain rfl := List.mem_singleton.mp h
      exact ofPiece _ (by simp)

end SpecPrompt.Chars
