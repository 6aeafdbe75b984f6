import Mathlib.Data.List.Infix
import SpecPrompt.Text.Split

/-!
# Cutting texts at a separator

A text is cut at the first place where the separator stands. This says what the first place is without
any search: no other way to write the text around the separator has a shorter part before it.
-/

namespace SpecPrompt.Chars

/-- `cs` is written as `before` and `after` around the first `separator` in it. -/
structure CutAt (separator cs before after : List Char) : Prop where
  whole : cs = before ++ separator ++ after
  first : ∀ start rest, cs = start ++ separator ++ rest → before.length ≤ start.length

variable {separator cs before after : List Char}

theorem cutAt_of_starts {rest : List Char} (h : separator ++ rest = cs) :
    CutAt separator cs before after ↔ before = [] ∧ after = rest := by
  subst h
  constructor
  · intro cut
    have none : before = [] := by
      have := cut.first [] rest (by simp)
      exact List.eq_nil_of_length_eq_zero (by simpa using this)
    refine ⟨none, ?_⟩
    have whole := cut.whole
    simp only [none, List.nil_append] at whole
    exact (List.append_cancel_left whole).symm
  · rintro ⟨rfl, rfl⟩
    exact ⟨by simp, fun _ _ _ => Nat.zero_le _⟩

/-- Where the separator does not stand at the start, it is looked for behind the first character. -/
theorem cutAt_cons_iff {c : Char} (h : ¬ separator <+: c :: cs) :
    CutAt separator (c :: cs) before after ↔
      ∃ start, before = c :: start ∧ CutAt separator cs start after := by
  constructor
  · intro cut
    cases before with
    | nil => exact absurd ⟨after, by simpa using cut.whole.symm⟩ h
    | cons d start =>
      have whole : c = d ∧ cs = start ++ separator ++ after := by simpa using cut.whole
      obtain ⟨rfl, whole⟩ := whole
      refine ⟨start, rfl, whole, fun earlier rest same => ?_⟩
      have := cut.first (c :: earlier) rest (by simp [same])
      simpa using this
  · rintro ⟨start, rfl, cut⟩
    refine ⟨by simp [cut.whole], fun earlier rest same => ?_⟩
    cases earlier with
    | nil => exact absurd ⟨rest, by simpa using same.symm⟩ h
    | cons d earlier =>
      have behind : c = d ∧ cs = earlier ++ separator ++ rest := by simpa using same
      have := cut.first earlier rest behind.2
      simpa using this

theorem search_eq_some_iff (done : List Char) :
    splitOnce.search separator done cs = some (before, after) ↔
      ∃ start, before = done.reverse ++ start ∧ CutAt separator cs start after := by
  -- The search collects what it has passed, so the induction is over every such start.
  induction cs generalizing done with
  | nil =>
    rw [splitOnce.search]
    cases separator with
    | nil =>
      have here : ∀ start, CutAt [] [] start after ↔ start = [] ∧ after = [] :=
        fun _ => cutAt_of_starts (List.append_nil [])
      simp [List.isPrefixOf?, here, eq_comm]
    | cons s separator =>
      simp only [List.isPrefixOf?, Option.map_none, reduceCtorEq, false_iff, not_exists, not_and]
      intro start _ cut
      simpa using cut.whole
  | cons c cs ih =>
    rw [splitOnce.search]
    split
    next rest found =>
      have cut := List.isPrefixOf?_eq_some_iff_append_eq.mp found
      simp only [cutAt_of_starts cut, Option.some.injEq, Prod.mk.injEq]
      constructor
      · rintro ⟨rfl, rfl⟩
        exact ⟨[], by simp⟩
      · rintro ⟨_, rfl, rfl, rfl⟩
        simp
    next none =>
      have apart : ¬ separator <+: c :: cs := by
        rw [← List.isPrefixOf_iff_prefix, ← List.isSome_isPrefixOf?_eq_isPrefixOf, none]
        simp
      rw [ih]
      constructor
      · rintro ⟨start, rfl, cut⟩
        exact ⟨c :: start, by simp, (cutAt_cons_iff apart).mpr ⟨start, rfl, cut⟩⟩
      · rintro ⟨_, rfl, cut⟩
        obtain ⟨start, rfl, behind⟩ := (cutAt_cons_iff apart).mp cut
        exact ⟨start, by simp, behind⟩

theorem splitOnce_eq_some_iff :
    splitOnce separator cs = some (before, after) ↔ CutAt separator cs before after := by
  rw [splitOnce, search_eq_some_iff]
  simp

/-- One character is found where it stands for the first time. -/
theorem cutAt_singleton_iff {c : Char} :
    CutAt [c] cs before after ↔ cs = before ++ c :: after ∧ c ∉ before := by
  constructor
  · intro cut
    refine ⟨by simpa using cut.whole, fun inside => ?_⟩
    obtain ⟨start, rest, rfl⟩ := List.append_of_mem inside
    have shortest := cut.first start (rest ++ [c] ++ after) (by simp [cut.whole])
    rw [List.length_append, List.length_cons] at shortest
    omega
  · rintro ⟨rfl, absent⟩
    refine ⟨by simp, fun start rest same => ?_⟩
    by_contra shorter
    -- A shorter start is a part of `before`, and so is the character behind it.
    have start_le : start ++ [c] <+: before ++ c :: after := ⟨rest, same.symm⟩
    have before_le : before <+: before ++ c :: after := List.prefix_append _ _
    have early : start ++ [c] <+: before := by
      apply List.prefix_of_prefix_length_le start_le before_le
      simp
      omega
    exact absent (early.subset (by simp))

theorem splitOnce_singleton_eq_some_iff {c : Char} :
    splitOnce [c] cs = some (before, after) ↔ cs = before ++ c :: after ∧ c ∉ before := by
  rw [splitOnce_eq_some_iff, cutAt_singleton_iff]

end SpecPrompt.Chars
