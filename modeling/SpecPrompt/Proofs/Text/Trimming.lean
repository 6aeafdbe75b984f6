import Mathlib.Data.List.DropRight
import SpecPrompt.Text.Blank

/-!
# Trimming

A text is some blanks, its trimmed form, and some more blanks. The trimmed form has no blank at
either end, and is the only part of the text of which trimming takes nothing.
-/

namespace SpecPrompt.Chars

/-- Nothing but blanks. -/
def AllBlank (cs : List Char) : Prop :=
  ∀ c ∈ cs, isBlank c = true

theorem allBlank_singleton {c : Char} (h : isBlank c = true) : AllBlank [c] := by
  simpa [AllBlank] using h

theorem allBlank_append {cs ds : List Char} (first : AllBlank cs) (second : AllBlank ds) :
    AllBlank (cs ++ ds) := by
  intro c inside
  rcases List.mem_append.mp inside with inside | inside
  · exact first c inside
  · exact second c inside

theorem trimEnd_append_blanks {cs blanks : List Char} (h : AllBlank blanks) :
    trimEnd (cs ++ blanks) = trimEnd cs := by
  simp only [trimEnd, dropEnd, List.reverse_append]
  rw [List.dropWhile_append_of_pos fun c hc => h c (List.mem_reverse.mp hc)]

theorem trim_append_blanks {cs blanks : List Char} (h : AllBlank blanks) :
    trim (cs ++ blanks) = trim cs := by
  simp only [trim, trimStart, dropStart, List.dropWhile_append]
  split
  -- Nothing but blanks: those behind are dropped at the start already.
  next empty =>
    have none : cs.dropWhile isBlank = [] := List.isEmpty_iff.mp empty
    rw [none, List.dropWhile_eq_nil_iff.mpr h]
  · exact trimEnd_append_blanks h

/-- What trimming takes from a text. -/
theorem trim_cut (cs : List Char) :
    ∃ before after, AllBlank before ∧ AllBlank after ∧ cs = before ++ trim cs ++ after := by
  refine ⟨cs.takeWhile isBlank, (trimStart cs).rtakeWhile isBlank, ?_, ?_, ?_⟩
  · exact fun c hc => List.mem_takeWhile_imp hc
  · exact fun c hc => List.mem_rtakeWhile_imp hc
  · have kept : trim cs ++ (trimStart cs).rtakeWhile isBlank = trimStart cs :=
      List.rdropWhile_append_rtakeWhile
    rw [List.append_assoc, kept]
    exact List.takeWhile_append_dropWhile.symm

theorem isInfix_trim (cs : List Char) : trim cs <:+: cs := by
  obtain ⟨before, after, -, -, cut⟩ := trim_cut cs
  exact ⟨before, after, cut.symm⟩

theorem mem_of_mem_trim {c : Char} {cs : List Char} (h : c ∈ trim cs) : c ∈ cs :=
  (isInfix_trim cs).subset h

/-- The end of a trimmed text is no blank. -/
theorem isBlank_getLast_trimEnd {c : Char} {cs : List Char} (h : (trimEnd cs).getLast? = some c) :
    isBlank c = false := by
  have nonempty : cs.rdropWhile isBlank ≠ [] := by
    rintro none
    have : trimEnd cs = [] := none
    simp [this] at h
  have last := List.rdropWhile_last_not isBlank cs nonempty
  have same : (cs.rdropWhile isBlank).getLast nonempty = c := by
    rw [← Option.some.injEq, ← List.getLast?_eq_some_getLast nonempty]
    exact h
  simpa [same] using last

theorem isBlank_getLast_trim {c : Char} {cs : List Char} (h : (trim cs).getLast? = some c) :
    isBlank c = false :=
  isBlank_getLast_trimEnd h

/-- The start of a trimmed text is no blank. -/
theorem isBlank_head_trim {c : Char} {cs : List Char} (h : (trim cs).head? = some c) :
    isBlank c = false := by
  -- What the end loses leaves the first character where it is.
  have first : (trimStart cs).head? = some c := by
    obtain ⟨rest, kept⟩ : trim cs <+: trimStart cs := List.rdropWhile_prefix isBlank _
    rw [← kept, List.head?_append, h]
    rfl
  have := List.head?_dropWhile_not isBlank cs
  rw [show cs.dropWhile isBlank = trimStart cs from rfl, first] at this
  simpa using this

theorem trimEnd_eq_self {cs : List Char} (last : ∀ c, cs.getLast? = some c → isBlank c = false) :
    trimEnd cs = cs := by
  apply List.rdropWhile_eq_self_iff.mpr
  intro nonempty
  simp [last _ (List.getLast?_eq_some_getLast nonempty)]

/-- Trimming takes nothing of a text that has no blank at its ends. -/
theorem trim_eq_self {cs : List Char} (head : ∀ c, cs.head? = some c → isBlank c = false)
    (last : ∀ c, cs.getLast? = some c → isBlank c = false) : trim cs = cs := by
  have start : trimStart cs = cs := by
    cases cs with
    | nil => rfl
    | cons c cs => simp [trimStart, dropStart, head c rfl]
  rw [trim, start, trimEnd_eq_self last]

@[simp] theorem trim_trim (cs : List Char) : trim (trim cs) = trim cs :=
  trim_eq_self (fun _ => isBlank_head_trim) (fun _ => isBlank_getLast_trim)

theorem trim_eq_nil_iff {cs : List Char} : trim cs = [] ↔ AllBlank cs := by
  constructor
  · intro none
    obtain ⟨before, after, blankBefore, blankAfter, cut⟩ := trim_cut cs
    rw [none, List.append_nil] at cut
    rw [cut]
    exact allBlank_append blankBefore blankAfter
  · intro blank
    have : trim ([] ++ cs) = trim [] := trim_append_blanks blank
    simpa [trim, trimStart, trimEnd, dropStart, dropEnd] using this

theorem mem_trim_or_isBlank {c : Char} {cs : List Char} (h : c ∈ cs) :
    c ∈ trim cs ∨ isBlank c = true := by
  obtain ⟨before, after, blankBefore, blankAfter, cut⟩ := trim_cut cs
  rw [cut, List.mem_append, List.mem_append] at h
  rcases h with (inside | inside) | inside
  · exact .inr (blankBefore c inside)
  · exact .inl inside
  · exact .inr (blankAfter c inside)

/-! ### Trimming at one end -/

@[simp] theorem trim_trimStart (cs : List Char) : trim (trimStart cs) = trim cs := by
  simp [trim, trimStart, dropStart, List.dropWhile_idempotent]

@[simp] theorem trim_trimEnd (cs : List Char) : trim (trimEnd cs) = trim cs := by
  have kept : trimEnd cs ++ cs.rtakeWhile isBlank = cs := List.rdropWhile_append_rtakeWhile
  have blank : AllBlank (cs.rtakeWhile isBlank) := fun c hc => List.mem_rtakeWhile_imp hc
  rw [← trim_append_blanks blank, kept]

theorem trim_blanks_append {cs blanks : List Char} (h : AllBlank blanks) :
    trim (blanks ++ cs) = trim cs := by
  rw [trim, trimStart, dropStart, List.dropWhile_append_of_pos h]
  rfl

/-- Each end of a text is trimmed on its own if both parts have a character to stop at. -/
theorem trim_append {cs ds : List Char} (first : ¬ AllBlank cs) (second : ¬ AllBlank ds) :
    trim (cs ++ ds) = trimStart cs ++ trimEnd ds := by
  have start : trimStart (cs ++ ds) = trimStart cs ++ ds := by
    have filled : cs.dropWhile isBlank ≠ [] := mt List.dropWhile_eq_nil_iff.mp first
    simp [trimStart, dropStart, List.dropWhile_append, filled]
  have filled : ds.reverse.dropWhile isBlank ≠ [] := by
    intro none
    apply second
    simpa [AllBlank] using List.dropWhile_eq_nil_iff.mp none
  rw [trim, start]
  simp [trimEnd, dropEnd, List.dropWhile_append, filled]

theorem dropEnd_cons {p : Char → Bool} {c : Char} (h : p c = false) (cs : List Char) :
    dropEnd p (c :: cs) = c :: dropEnd p cs := by
  simp only [dropEnd, List.reverse_cons, List.dropWhile_append]
  split
  next empty => simp_all
  · simp

theorem dropEnd_append_cons {p : Char → Bool} {c : Char} (h : p c = false) (before cs : List Char) :
    dropEnd p (before ++ c :: cs) = before ++ c :: dropEnd p cs := by
  have kept : (c :: cs).reverse.dropWhile p = (c :: dropEnd p cs).reverse := by
    rw [← dropEnd_cons h, dropEnd, List.reverse_reverse]
  rw [dropEnd, List.reverse_append, List.dropWhile_append, kept]
  simp

theorem dropEnd_append_replicate {c : Char} {cs : List Char} (n : Nat) (last : cs.getLast? ≠ some c) :
    dropEnd (· == c) (cs ++ List.replicate n c) = cs := by
  rw [dropEnd, List.reverse_append, List.dropWhile_append_of_pos (by simp),
    List.dropWhile_eq_self_iff.mpr, List.reverse_reverse]
  intro filled first
  have final : cs.reverse[0] = c := by simpa using first
  apply last
  rw [← List.head?_reverse, List.head?_eq_getElem?, List.getElem?_eq_getElem filled, final]

theorem exists_dropStart (c : Char) (cs : List Char) :
    ∃ n, cs = List.replicate n c ++ dropStart (· == c) cs := by
  have same : cs.takeWhile (· == c) = List.replicate (cs.takeWhile (· == c)).length c :=
    List.eq_replicate_of_mem fun d hd => by simpa using List.mem_takeWhile_imp hd
  exact ⟨_, by rw [← same, dropStart, List.takeWhile_append_dropWhile]⟩

theorem trimEnd_cons {c : Char} (h : isBlank c = false) (cs : List Char) :
    trimEnd (c :: cs) = c :: trimEnd cs :=
  dropEnd_cons h cs

theorem trim_cons {c : Char} (h : isBlank c = false) (cs : List Char) :
    trim (c :: cs) = c :: trimEnd cs := by
  have start : trimStart (c :: cs) = c :: cs := by simp [trimStart, dropStart, h]
  rw [trim, start, trimEnd_cons h]

end SpecPrompt.Chars
