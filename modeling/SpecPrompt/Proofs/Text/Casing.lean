import Mathlib.Data.List.Forall2
import SpecPrompt.Proofs.Text.Trimming
import SpecPrompt.Text.Case

/-!
# Blanks and lower case

No blank is the lowercase form of a character that is not blank, and no character's lowercase form is
empty. So a text with no blank at its ends has none there in lower case, and it does not vanish.
-/

namespace SpecPrompt

/-- The code points of the blank characters. -/
def blankPoints : List Nat :=
  [0x9, 0xA, 0xB, 0xC, 0xD, 0x20, 0x85, 0xA0, 0x1680, 0x2000, 0x2001, 0x2002, 0x2003, 0x2004,
   0x2005, 0x2006, 0x2007, 0x2008, 0x2009, 0x200A, 0x2028, 0x2029, 0x202F, 0x205F, 0x3000]

theorem isBlank_iff_mem_blankPoints {c : Char} : isBlank c = true ↔ c.toNat ∈ blankPoints := by
  simp only [isBlank, blankPoints, Bool.or_eq_true, Bool.and_eq_true, beq_iff_eq,
    decide_eq_true_eq, List.mem_cons, List.not_mem_nil, or_false]
  omega

namespace CaseData

/-- Whether a code point lies outside of what a run leads to. In numbers this is evaluated fast. -/
def misses (r : Run) (b : Nat) : Bool :=
  Nat.blt b (r.first + r.shift).toNat || Nat.blt (r.last + r.shift).toNat b

theorem not_reached_of_misses {r : Run} {b : Nat} (h : misses r b = true) :
    ¬ ((r.first : Int) ≤ b - r.shift ∧ (b : Int) - r.shift ≤ r.last) := by
  simp only [misses, Bool.or_eq_true, Nat.blt_eq] at h
  omega

theorem not_reached_of_all {points : List Nat}
    (h : (lowerRuns.all fun r => points.all (misses r)) = true) : ∀ r ∈ lowerRuns, ∀ b ∈ points,
      ¬ ((r.first : Int) ≤ b - r.shift ∧ (b : Int) - r.shift ≤ r.last) :=
  fun r run b point => not_reached_of_misses (List.all_eq_true.mp (List.all_eq_true.mp h r run) b point)

/-- The runs do not lead to a blank. -/
theorem not_blank_lowerRuns : ∀ r ∈ lowerRuns, ∀ b ∈ blankPoints,
    ¬ ((r.first : Int) ≤ b - r.shift ∧ (b : Int) - r.shift ≤ r.last) :=
  not_reached_of_all (by decide +kernel)

/-- Lower case leads to some code points only from themselves if no run leads to them. -/
theorem shiftIn_not_mem {points : List Nat} {n : Nat} (positive : ∀ b ∈ points, 0 < b)
    (unreached : ∀ r ∈ lowerRuns, ∀ b ∈ points,
      ¬ ((r.first : Int) ≤ b - r.shift ∧ (b : Int) - r.shift ≤ r.last))
    (h : n ∉ points) : shiftIn lowerRuns n ∉ points := by
  rw [shiftIn]
  split
  next r found =>
    split
    next covered =>
      intro reached
      have last : n ≤ r.last := by simpa using List.find?_some found
      have := positive _ reached
      apply unreached r (List.mem_of_find?_eq_some found) _ reached
      omega
    · exact h
  · exact h

theorem not_blank_shiftIn {n : Nat} (h : n ∉ blankPoints) : shiftIn lowerRuns n ∉ blankPoints :=
  shiftIn_not_mem (by decide) not_blank_lowerRuns h

/-- The code points of the letters from A to Z. -/
def capitalPoints : List Nat :=
  (List.range 26).map (0x41 + ·)

/-- The runs do not lead to a letter from A to Z. -/
theorem not_capital_lowerRuns : ∀ r ∈ lowerRuns, ∀ b ∈ capitalPoints,
    ¬ ((r.first : Int) ≤ b - r.shift ∧ (b : Int) - r.shift ≤ r.last) :=
  not_reached_of_all (by decide +kernel)

theorem not_capital_shiftIn (n : Nat) : shiftIn lowerRuns n ∉ capitalPoints := by
  have moved : ∀ b ∈ capitalPoints, shiftIn lowerRuns b ∉ capitalPoints := by decide +kernel
  by_cases capital : n ∈ capitalPoints
  · exact moved n capital
  · exact shiftIn_not_mem (by decide) not_capital_lowerRuns capital

/-- A case form is one of the listed expansions or one code point. -/
theorem mapped_cases (runs : List Run) (expansions : List (Nat × List Nat)) (n : Nat) :
    mapped runs expansions n = [shiftIn runs n] ∨
      ∃ entry ∈ expansions, mapped runs expansions n = entry.2 := by
  rw [mapped]
  split
  next m form found =>
    split
    · exact .inr ⟨_, List.mem_of_find?_eq_some found, rfl⟩
    · exact .inl rfl
  · exact .inl rfl

theorem mapped_lower {n : Nat} (h : n ∉ blankPoints) :
    mapped lowerRuns lowerExpansions n ≠ [] ∧
      ∀ m ∈ mapped lowerRuns lowerExpansions n, m ∉ blankPoints := by
  have expansions : ∀ e ∈ lowerExpansions, e.2 ≠ [] ∧ ∀ m ∈ e.2, m ∉ blankPoints := by decide
  rcases mapped_cases lowerRuns lowerExpansions n with single | ⟨entry, listed, expanded⟩
  · rw [single]
    simpa using not_blank_shiftIn h
  · rw [expanded]
    exact expansions entry listed

end CaseData

namespace Chars

/-- Some characters, none of them blank. -/
def IsInk (form : List Char) : Prop :=
  form ≠ [] ∧ ∀ c ∈ form, isBlank c = false

theorem isBlank_ofNat {n : Nat} (h : n ∉ blankPoints) : isBlank (Char.ofNat n) = false := by
  rw [Bool.eq_false_iff, Ne, isBlank_iff_mem_blankPoints]
  by_cases valid : n.isValidChar
  · rw [Char.ofNat, dif_pos valid]
    exact h
  -- A number that is no code point stands for no blank either.
  · rw [Char.ofNat, dif_neg valid]
    decide

theorem isInk_lowerForm {c : Char} (h : isBlank c = false) : IsInk (lowerForm c) := by
  have point : c.toNat ∉ blankPoints := by
    rw [← isBlank_iff_mem_blankPoints, h]
    decide
  obtain ⟨some, unblank⟩ := CaseData.mapped_lower point
  refine ⟨by simpa [lowerForm] using some, fun d hd => ?_⟩
  obtain ⟨m, hm, rfl⟩ := List.mem_map.mp hd
  exact isBlank_ofNat (unblank m hm)

/-- A lowercase form that the character can have. A capital sigma has two of them. -/
def IsLowerForm (c : Char) (form : List Char) : Prop :=
  if c = 'Σ' then form = ['σ'] ∨ form = ['ς'] else form = lowerForm c

theorem isInk_of_isLowerForm {c : Char} {form : List Char} (h : IsLowerForm c form)
    (unblank : isBlank c = false) : IsInk form := by
  rw [IsLowerForm] at h
  split at h
  · rcases h with rfl | rfl <;> exact ⟨nofun, List.forall_mem_singleton.mpr rfl⟩
  · exact h ▸ isInk_lowerForm unblank

/-- Lower case is put together from a form for each character. -/
theorem lower_eq_flatten (cs : List Char) :
    ∃ forms, List.Forall₂ IsLowerForm cs forms ∧ lower cs = forms.flatten := by
  have go : ∀ (cs before : List Char) (done : List (List Char)),
      ∃ forms, List.Forall₂ IsLowerForm cs forms ∧
        lower.go before done cs = (done.reverse ++ forms).flatten := by
    intro cs
    -- The forms are collected in front, so the induction is over every start of the list.
    induction cs with
    | nil => exact fun before done => ⟨[], .nil, by rw [lower.go, List.append_nil]⟩
    | cons c cs ih =>
      intro before done
      obtain ⟨forms, each, whole⟩ := ih (c :: before)
        ((if c = 'Σ' then [lowerSigma before cs] else lowerForm c) :: done)
      refine ⟨(if c = 'Σ' then [lowerSigma before cs] else lowerForm c) :: forms,
        .cons ?_ each, whole.trans ?_⟩
      · rw [IsLowerForm]
        split
        · rw [lowerSigma]
          split <;> simp
        · rfl
      · simp
  exact go cs [] []

/-- No lowercase form has a letter from A to Z. -/
theorem not_capital_of_isLowerForm {c d : Char} {form : List Char} (h : IsLowerForm c form)
    (inside : d ∈ form) : d.toNat ∉ CaseData.capitalPoints := by
  have expansions : ∀ e ∈ CaseData.lowerExpansions, ∀ m ∈ e.2, m ∉ CaseData.capitalPoints := by
    decide
  rw [IsLowerForm] at h
  split at h
  · have sigma : d = 'σ' ∨ d = 'ς' := by
      rcases h with rfl | rfl
      · exact .inl (List.mem_singleton.mp inside)
      · exact .inr (List.mem_singleton.mp inside)
    rcases sigma with rfl | rfl <;> decide
  · subst h
    obtain ⟨m, mapped, rfl⟩ := List.mem_map.mp inside
    have point : m ∉ CaseData.capitalPoints := by
      rcases CaseData.mapped_cases CaseData.lowerRuns CaseData.lowerExpansions c.toNat with
        single | ⟨entry, expansion, expanded⟩
      · rw [single, List.mem_singleton] at mapped
        rw [mapped]
        exact CaseData.not_capital_shiftIn _
      · rw [expanded] at mapped
        exact expansions entry expansion m mapped
    by_cases valid : m.isValidChar
    · rwa [Char.ofNat, dif_pos valid]
    -- A number that is no code point stands for no letter either.
    · rw [Char.ofNat, dif_neg valid]
      decide

/-- There is no letter from A to Z in lower case. -/
theorem not_capital_of_mem_lower {cs : List Char} {d : Char} (h : d ∈ lower cs) :
    d.toNat ∉ CaseData.capitalPoints := by
  obtain ⟨forms, each, whole⟩ := lower_eq_flatten cs
  rw [whole, List.mem_flatten] at h
  obtain ⟨form, listed, inside⟩ := h
  clear whole
  induction each with
  | nil => cases listed
  | cons here _ ih =>
    rcases List.mem_cons.mp listed with rfl | later
    · exact not_capital_of_isLowerForm here inside
    · exact ih later

theorem lower_eq_nil_iff {cs : List Char} (h : trim cs = cs) : lower cs = [] ↔ cs = [] := by
  obtain ⟨forms, each, whole⟩ := lower_eq_flatten cs
  refine ⟨fun none => ?_, fun none => by rw [none]; rfl⟩
  cases each with
  | nil => rfl
  | cons form _ =>
    have ink := isInk_of_isLowerForm form (isBlank_head_trim (by rw [h]; rfl))
    rw [whole, List.flatten_cons, List.append_eq_nil_iff] at none
    exact absurd none.1 ink.1

/-- A text without blanks at its ends stays so in lower case. -/
theorem trim_lower {cs : List Char} (h : trim cs = cs) : trim (lower cs) = lower cs := by
  obtain ⟨forms, each, whole⟩ := lower_eq_flatten cs
  rw [whole]
  refine trim_eq_self (fun d first => ?_) (fun d last => ?_)
  · cases each with
    | nil => cases first
    | cons form _ =>
      have ink := isInk_of_isLowerForm form (isBlank_head_trim (by rw [h]; rfl))
      rw [List.flatten_cons, List.head?_append_of_ne_nil _ ink.1] at first
      exact ink.2 d (List.mem_of_head? first)
  -- The last form is the first one from behind.
  · rw [← List.forall₂_reverse_iff] at each
    cases behind : cs.reverse with
    | nil =>
      rw [behind] at each
      rw [List.reverse_eq_nil_iff.mp (List.forall₂_nil_left_iff.mp each)] at last
      cases last
    | cons c rest =>
      rw [behind] at each
      obtain ⟨form, others, ink, -, back⟩ := List.forall₂_cons_left_iff.mp each
      have final : cs.getLast? = some c := by rw [← List.head?_reverse, behind]; rfl
      have ink := isInk_of_isLowerForm ink (isBlank_getLast_trim (by rw [h]; exact final))
      rw [List.reverse_eq_cons_iff.mp back, List.flatten_append, List.flatten_singleton,
        List.getLast?_append_of_ne_nil _ ink.1] at last
      exact ink.2 d (List.mem_of_getLast? last)

end Chars

end SpecPrompt
