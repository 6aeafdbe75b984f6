import SpecPrompt.Language
import SpecPrompt.Proofs.Document.Fields

/-!
# The labels of the language

A preamble knows the label of the language in lower case, in some spellings with and without accent and
underscore. The settings know it folded: without accents, in lower case, without underscores. So two
tables have to agree on labels in any case. Lower case leads to a letter of the known spellings only from
that letter and from its capital, and folding treats the two alike, so a label in any case is folded as
the spelling it has in lower case.

## Main result

`recognized_of_normalizeKey`: a label that a preamble knows is known, folded, in the settings.
-/

namespace SpecPrompt

open Chars

/-- The spellings in lower case that stand for the language. -/
def languageSpellings : List String :=
  ["linguagem", "linguagem_padrão", "linguagem_padrao", "linguagem padrão", "linguagem padrao",
   "default language", "default_language"]

/-- The characters of the spellings, each with the characters of which it is the lowercase form. -/
def spellingCases : List (Char × List Char) :=
  [(' ', [' ']), ('_', ['_']), ('a', ['a', 'A']), ('d', ['d', 'D']), ('e', ['e', 'E']),
   ('f', ['f', 'F']), ('g', ['g', 'G']), ('i', ['i', 'I']), ('l', ['l', 'L']), ('m', ['m', 'M']),
   ('n', ['n', 'N']), ('o', ['o', 'O']), ('p', ['p', 'P']), ('r', ['r', 'R']), ('t', ['t', 'T']),
   ('u', ['u', 'U']), ('ã', ['ã', 'Ã'])]

/-- `c` is the character `d` of a spelling in some case. -/
def SameLetter (c d : Char) : Prop :=
  ∃ e ∈ spellingCases, e.1 = d ∧ c ∈ e.2

theorem languageSpelling_of_normalizeKey {label : List Char}
    (known : normalizeKey (String.ofList label) = "linguagem") :
    String.ofList (lower (trim label)) ∈ languageSpellings := by
  have aliases : ∀ e ∈ keyAliases, e.2 = "linguagem" → e.1 ∈ languageSpellings := by decide
  have lowered : Text.lower (Text.trim (String.ofList label)) = String.ofList (lower (trim label)) := by
    simp [Text.lower, Text.trim]
  rw [normalizeKey, lowered] at known
  cases found : keyAliases.lookup (String.ofList (lower (trim label))) with
  | some key =>
    rw [found] at known
    exact aliases _ (mem_of_lookup found) known
  | none =>
    rw [found] at known
    have same : String.ofList (lower (trim label)) = "linguagem" := known
    rw [same]
    decide

theorem mem_spellingCases : ∀ s ∈ languageSpellings, ∀ d ∈ s.toList, ∃ e ∈ spellingCases, e.1 = d := by
  have each : ∀ s ∈ languageSpellings,
      s.toList.all (fun d => ∃ e ∈ spellingCases, e.1 = d) = true := by decide
  intro s listed d inside
  simpa using List.all_eq_true.mp (each s listed) d inside

/-! ### Letters of which one is the lowercase form of the other -/

section

open CaseData

/-- A run leads to a letter of the spellings only from its capital. -/
theorem spellingCases_lowerRuns : ∀ r ∈ lowerRuns, ∀ e ∈ spellingCases,
    (r.first : Int) ≤ e.1.toNat - r.shift → (e.1.toNat : Int) - r.shift ≤ r.last →
      Char.ofNat ((e.1.toNat : Int) - r.shift).toNat ∈ e.2 := by
  have each : (lowerRuns.all fun r => spellingCases.all fun e =>
      misses r e.1.toNat || e.2.contains (Char.ofNat ((e.1.toNat : Int) - r.shift).toNat)) = true := by
    decide
  intro r run e listed low high
  have found := List.all_eq_true.mp (List.all_eq_true.mp each r run) e listed
  rw [Bool.or_eq_true, List.contains_iff_mem] at found
  exact found.resolve_left fun missed => not_reached_of_misses missed ⟨low, high⟩

theorem sameLetter_of_shiftIn {c d : Char} (h : shiftIn lowerRuns c.toNat = d.toNat)
    (letter : ∃ e ∈ spellingCases, e.1 = d) : SameLetter c d := by
  have itself : ∀ e ∈ spellingCases, 0 < e.1.toNat ∧ e.1 ∈ e.2 := by decide
  obtain ⟨e, listed, rfl⟩ := letter
  refine ⟨e, listed, rfl, ?_⟩
  rw [shiftIn] at h
  split at h
  next r found =>
    split at h
    next covered =>
      have last : c.toNat ≤ r.last := by simpa using List.find?_some found
      have positive := (itself e listed).1
      have point : ((e.1.toNat : Int) - r.shift).toNat = c.toNat := by omega
      have capital := spellingCases_lowerRuns r (List.mem_of_find?_eq_some found) e listed
        (by omega) (by omega)
      rwa [point, Char.ofNat_toNat] at capital
    · rw [Char.toNat_inj.mp h]
      exact (itself e listed).2
  · rw [Char.toNat_inj.mp h]
    exact (itself e listed).2

theorem toNat_ofNat_of_mem_spellingCases {n : Nat} (letter : ∃ e ∈ spellingCases, e.1 = Char.ofNat n) :
    (Char.ofNat n).toNat = n := by
  have visible : ∀ e ∈ spellingCases, e.1 ≠ Char.ofNat 0 := by decide
  by_cases valid : n.isValidChar
  · rw [Char.ofNat, dif_pos valid]
    rfl
  · obtain ⟨e, listed, same⟩ := letter
    rw [Char.ofNat, dif_neg valid] at same
    exact absurd same (visible e listed)

/-- Lowercase letters of the spellings are the form of one letter each. -/
theorem sameLetter_of_isLowerForm {c : Char} {form : List Char} (h : IsLowerForm c form)
    (letters : ∀ d ∈ form, ∃ e ∈ spellingCases, e.1 = d) : ∃ d, form = [d] ∧ SameLetter c d := by
  have sigmas : (¬ ∃ e ∈ spellingCases, e.1 = 'σ') ∧ ¬ ∃ e ∈ spellingCases, e.1 = 'ς' := by decide
  have foreign : ∀ x ∈ lowerExpansions, ∃ m ∈ x.2, ¬ ∃ e ∈ spellingCases, e.1 = Char.ofNat m := by
    decide
  rw [IsLowerForm] at h
  split at h
  · rcases h with rfl | rfl
    · exact absurd (letters _ (by simp)) sigmas.1
    · exact absurd (letters _ (by simp)) sigmas.2
  · subst h
    rw [lowerForm] at letters ⊢
    rcases mapped_cases lowerRuns lowerExpansions c.toNat with single | ⟨entry, listed, expanded⟩
    · rw [single] at letters ⊢
      have letter := letters (Char.ofNat (shiftIn lowerRuns c.toNat)) (by simp)
      have point := toNat_ofNat_of_mem_spellingCases letter
      exact ⟨_, rfl, sameLetter_of_shiftIn point.symm letter⟩
    -- An expansion has a character that is in no spelling.
    · rw [expanded] at letters
      obtain ⟨m, member, other⟩ := foreign entry listed
      exact absurd (letters _ (List.mem_map_of_mem member)) other

end

theorem forall₂_sameLetter {cs : List Char} (letters : ∀ d ∈ lower cs, ∃ e ∈ spellingCases, e.1 = d) :
    List.Forall₂ SameLetter cs (lower cs) := by
  obtain ⟨forms, each, whole⟩ := lower_eq_flatten cs
  rw [whole] at letters ⊢
  clear whole
  induction each with
  | nil => exact .nil
  | @cons c form cs forms here _ ih =>
    obtain ⟨d, rfl, same⟩ := sameLetter_of_isLowerForm here fun d inside => letters d (by simp [inside])
    exact .cons same (ih fun d inside => letters d (by
      rw [List.flatten_cons, List.mem_append]
      exact .inr inside))

/-! ### Folding -/

theorem lower_of_forall₂ {cs ds : List Char}
    (h : List.Forall₂ (fun c d => c ≠ 'Σ' ∧ lowerForm c = [d]) cs ds) : lower cs = ds := by
  obtain ⟨forms, each, whole⟩ := lower_eq_flatten cs
  rw [whole]
  clear whole
  induction h generalizing forms with
  | nil =>
    cases each
    rfl
  | cons here _ ih =>
    cases each with
    | cons form each =>
      rw [IsLowerForm, if_neg here.1, here.2] at form
      rw [form, List.flatten_cons, ih _ each]
      rfl

/-- A letter of a spelling without its accent, and a space for an underscore. -/
def foldLetter (d : Char) : Char :=
  if baseLetter d = '_' then ' ' else baseLetter d

theorem lowerForm_baseLetter : ∀ e ∈ spellingCases, ∀ c ∈ e.2,
    baseLetter c ≠ 'Σ' ∧ lowerForm (baseLetter c) = [baseLetter e.1] := by
  have each : ∀ e ∈ spellingCases, e.2.all (fun c =>
      baseLetter c ≠ 'Σ' ∧ lowerForm (baseLetter c) = [baseLetter e.1]) = true := by decide
  intro e listed c member
  simpa using List.all_eq_true.mp (each e listed) c member

/-- A label is folded as its spelling in lower case. -/
theorem foldLabel_eq {cs : List Char} (letters : ∀ d ∈ lower cs, ∃ e ∈ spellingCases, e.1 = d) :
    foldLabel cs = (lower cs).map foldLetter := by
  have stripped : lower (stripAccents cs) = (lower cs).map baseLetter := by
    apply lower_of_forall₂
    rw [stripAccents, List.forall₂_map_left_iff, List.forall₂_map_right_iff]
    refine (forall₂_sameLetter letters).imp ?_
    rintro c _ ⟨e, listed, rfl, member⟩
    exact lowerForm_baseLetter e listed c member
  rw [foldLabel, stripped, List.map_map]
  rfl

theorem contains_languageSpellings : ∀ s ∈ languageSpellings,
    languageLabels.contains (s.toList.map foldLetter) = true := by
  -- Each letter is folded once, and then the spellings are letters put together.
  have letters : ∀ e ∈ spellingCases,
      foldLetter e.1 = if e.1 = '_' then ' ' else if e.1 = 'ã' then 'a' else e.1 := by
    decide
  have each : ∀ s ∈ languageSpellings, languageLabels.contains
      (s.toList.map fun d => if d = '_' then ' ' else if d = 'ã' then 'a' else d) = true := by
    decide
  intro s listed
  have same : s.toList.map foldLetter =
      s.toList.map fun d => if d = '_' then ' ' else if d = 'ã' then 'a' else d := by
    refine List.map_congr_left fun d inside => ?_
    obtain ⟨e, member, rfl⟩ := mem_spellingCases s listed d inside
    exact letters e member
  rw [same]
  exact each s listed

/-- A label that stands for the language in a preamble is a label of the language when it is folded, and
it holds no character that means something in a line of the settings. -/
theorem recognized_of_normalizeKey {label : List Char}
    (known : normalizeKey (String.ofList label) = "linguagem") :
    languageLabels.contains (foldLabel (trim label)) = true ∧ trim label ≠ [] ∧
      ∀ c ∈ trim label, c ≠ ':' ∧ c ≠ '*' ∧ c ≠ '-' := by
  have spelled := languageSpelling_of_normalizeKey known
  have letters := mem_spellingCases _ spelled
  rw [String.toList_ofList] at letters
  refine ⟨?_, ?_, ?_⟩
  · have := contains_languageSpellings _ spelled
    rwa [String.toList_ofList, ← foldLabel_eq letters] at this
  · intro empty
    rw [empty] at spelled
    revert spelled
    decide
  · have plain : ∀ e ∈ spellingCases, e.2.all (fun c => c ≠ ':' ∧ c ≠ '*' ∧ c ≠ '-') = true := by decide
    have each : List.Forall₂ (fun c d => (c ≠ ':' ∧ c ≠ '*' ∧ c ≠ '-') ∧ SameLetter c d)
        (trim label) (lower (trim label)) := by
      refine (forall₂_sameLetter letters).imp ?_
      rintro c d ⟨e, listed, same, member⟩
      have apart := List.all_eq_true.mp (plain e listed) c member
      exact ⟨by simpa using apart, e, listed, same, member⟩
    exact ((List.forall₂_and_left _ _).mp each).1

/-! ### Labels letter by letter -/

/-- A character without its accent, in lower case, and a space for an underscore. -/
def plainLetter (c : Char) : Char :=
  (foldLetter c).toLower

/-- The characters are a label of the language but for case, accents and underscores. -/
def IsLanguageLabel (label : List Char) : Prop :=
  label.map plainLetter ∈ languageLabels

theorem baseLetter_baseLetter (c : Char) : baseLetter (baseLetter c) = baseLetter c := by
  have bases : ∀ e ∈ accentedLetters, baseLetter e.1 = e.1 := by decide
  cases found : accentedLetters.find? fun entry => entry.2.contains c with
  | none =>
    have own : baseLetter c = c := by rw [baseLetter, found]
    rw [own, own]
  | some entry =>
    have base : baseLetter c = entry.1 := by rw [baseLetter, found]
    rw [base]
    exact bases entry (List.mem_of_find?_eq_some found)

theorem exists_spellingCase_of_mem_languageLabels {label : List Char} (h : label ∈ languageLabels)
    {d : Char} (inside : d ∈ label) : d.toNat < 128 ∧ ∃ e ∈ spellingCases, e.1 = d := by
  have each : ∀ label ∈ languageLabels,
      label.all (fun d => d.toNat < 128 ∧ ∃ e ∈ spellingCases, e.1 = d) = true := by decide
  simpa using List.all_eq_true.mp (each label h) d inside

theorem map_plainLetter_of_foldLabel {label : List Char} (h : foldLabel label ∈ languageLabels) :
    label.map plainLetter = foldLabel label := by
  have letters : ∀ d ∈ lower (stripAccents label), ∃ e ∈ spellingCases, e.1 = d := by
    intro d inside
    by_cases underscore : d = '_'
    · exact ⟨('_', ['_']), by decide, underscore.symm⟩
    · apply (exists_spellingCase_of_mem_languageLabels h _).2
      rw [foldLabel]
      simpa [underscore] using List.mem_map_of_mem (f := fun c => if c = '_' then ' ' else c) inside
  -- An accented letter of the spellings is not what is left of a letter without its accent.
  have table : ∀ e ∈ spellingCases, e.2.all (fun b => baseLetter b = b →
      (if b = '_' then ' ' else b).toLower = if e.1 = '_' then ' ' else e.1) = true := by
    decide
  have each := forall₂_sameLetter letters
  rw [stripAccents, List.forall₂_map_left_iff] at each
  rw [foldLabel, stripAccents, ← List.forall₂_eq_eq_eq, List.forall₂_map_left_iff,
    List.forall₂_map_right_iff]
  refine each.imp ?_
  rintro c _ ⟨e, listed, rfl, member⟩
  have same := List.all_eq_true.mp (table e listed) _ member
  simp only [baseLetter_baseLetter, forall_const, decide_eq_true_eq] at same
  rw [plainLetter, foldLetter, same]

theorem toNat_lt_of_toLower {c : Char} (h : c.toLower.toNat < 128) : c.toNat < 128 := by
  by_cases capital : c.val ≥ 'A'.val ∧ c.val ≤ 'Z'.val
  · exact Nat.lt_of_le_of_lt (UInt32.le_iff_toNat_le.mp capital.2) (by decide)
  · have same : c.toLower = c := dif_neg capital
    rwa [same] at h

theorem foldLabel_of_map_plainLetter {label : List Char} (h : label.map plainLetter ∈ languageLabels) :
    foldLabel label = label.map plainLetter := by
  have ascii : ∀ n < 128, Char.ofNat n ≠ 'Σ' ∧ lowerForm (Char.ofNat n) = [(Char.ofNat n).toLower] ∧
      (if (Char.ofNat n).toLower = '_' then ' ' else (Char.ofNat n).toLower) =
        (if Char.ofNat n = '_' then ' ' else Char.ofNat n).toLower := by
    decide
  have plain : ∀ c ∈ label, baseLetter c ≠ 'Σ' ∧ lowerForm (baseLetter c) = [(baseLetter c).toLower] ∧
      (if (baseLetter c).toLower = '_' then ' ' else (baseLetter c).toLower) = plainLetter c := by
    intro c inside
    have small := (exists_spellingCase_of_mem_languageLabels h (List.mem_map_of_mem inside)).1
    have point : (baseLetter c).toNat < 128 := by
      by_cases underscore : baseLetter c = '_'
      · rw [underscore]
        decide
      · rw [plainLetter, foldLetter, if_neg underscore] at small
        exact toNat_lt_of_toLower small
    have known := ascii _ point
    rwa [Char.ofNat_toNat] at known
  have lowered : lower (stripAccents label) = label.map fun c => (baseLetter c).toLower := by
    apply lower_of_forall₂
    rw [stripAccents, List.forall₂_map_left_iff, List.forall₂_map_right_iff, List.forall₂_same]
    exact fun c inside => ⟨(plain c inside).1, (plain c inside).2.1⟩
  rw [foldLabel, lowered, List.map_map]
  exact List.map_congr_left fun c inside => (plain c inside).2.2

/-- A label is recognized if it is a label of the language letter by letter. -/
theorem contains_foldLabel_iff {label : List Char} :
    languageLabels.contains (foldLabel label) = true ↔ IsLanguageLabel label := by
  rw [List.contains_iff_mem, IsLanguageLabel]
  constructor
  · intro recognized
    rwa [map_plainLetter_of_foldLabel recognized]
  · intro listed
    rwa [foldLabel_of_map_plainLetter listed]

end SpecPrompt
