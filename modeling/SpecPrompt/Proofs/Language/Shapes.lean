import SpecPrompt.Proofs.Language.Settings

/-!
# The shapes of a line that states the language

A line of the settings states the language as a label and a value around a colon, and the label may be an
item of a list and may be set in bold print. In a bold label two asterisks stand on either side. The line
is read more freely than that: any number of asterisks is taken off on the left of the label, and any
number on the right, and what stands behind the colon is not looked at.

## Main result

`languageOfLine?_eq_some_iff_written`: the lines that state a language, and which of them have one of the
four shapes.
-/

namespace SpecPrompt

open Chars

/-! ### Parts with blanks around them -/

/-- The parts one after the other, with blanks around them. -/
def Spaced : List (List Char) → List Char → Prop
  | [], cs => AllBlank cs
  | part :: parts, cs =>
    ∃ blanks rest, AllBlank blanks ∧ cs = blanks ++ part ++ rest ∧ Spaced parts rest

namespace Spaced

variable {parts : List (List Char)} {cs : List Char}

theorem not_mem {d : Char} (h : Spaced parts cs) (ink : isBlank d = false)
    (absent : ∀ part ∈ parts, d ∉ part) : d ∉ cs := by
  induction parts generalizing cs with
  | nil =>
    intro inside
    exact absurd (h d inside) (by simp [ink])
  | cons part parts ih =>
    obtain ⟨blanks, rest, blank, rfl, behind⟩ := h
    simp only [List.mem_append, not_or]
    refine ⟨⟨?_, absent part (by simp)⟩, ih behind fun other listed => absent other (by simp [listed])⟩
    intro inside
    exact absurd (blank d inside) (by simp [ink])

end Spaced

/-! ### Asterisks around a label -/

/-- That many asterisks. -/
def stars (n : Nat) : List Char :=
  List.replicate n '*'

theorem not_mem_stars {c : Char} {n : Nat} (h : c ≠ '*') : c ∉ stars n :=
  fun inside => h (List.eq_of_mem_replicate inside)

/-- The label has characters other than blanks and asterisks at its ends. -/
structure HasPlainEnds (label : List Char) : Prop where
  first : ∃ c rest, label = c :: rest ∧ isBlank c = false ∧ c ≠ '*'
  last : ∀ c, label.getLast? = some c → isBlank c = false ∧ c ≠ '*'

/-- What is taken off before a label, up to its first character. -/
theorem unbold_start {blanks between : List Char} {c : Char} (m : Nat) (rest : List Char)
    (blank : AllBlank blanks) (between_blank : AllBlank between) (ink : isBlank c = false)
    (thin : c ≠ '*') :
    ∃ kept, AllBlank kept ∧
      dropStart (· == '*') (trim (blanks ++ stars m ++ (between ++ c :: rest))) =
        kept ++ c :: trimEnd rest := by
  rw [List.append_assoc, trim_blanks_append blank]
  cases m with
  -- Without asterisks the blanks before the label go when the line is trimmed.
  | zero =>
    refine ⟨[], by simp [AllBlank], ?_⟩
    rw [stars, List.replicate_zero, List.nil_append, trim_blanks_append between_blank, trim_cons ink,
      dropStart, List.dropWhile_cons_of_neg (by simpa using thin)]
    rfl
  | succ m =>
    refine ⟨between, between_blank, ?_⟩
    have whole : stars (m + 1) ++ (between ++ c :: rest) = '*' :: (stars m ++ between ++ c :: rest) := by
      simp [stars, List.replicate_succ]
    have bare : dropStart (· == '*') (between ++ c :: trimEnd rest) = between ++ c :: trimEnd rest := by
      cases between with
      | nil => simp [dropStart, thin]
      | cons d between =>
        have other : d ≠ '*' := by
          rintro rfl
          exact absurd (between_blank '*' (by simp)) (by decide)
        simp [dropStart, other]
    rw [whole, trim_cons (by decide), trimEnd, dropEnd_append_cons ink, ← trimEnd, ← List.cons_append,
      ← List.cons_append, List.append_assoc, dropStart, show '*' :: stars m = stars (m + 1) from rfl,
      List.dropWhile_append_of_pos (by simp [stars])]
    exact bare

/-- What is taken off behind a label. -/
theorem unbold_end {cs blanks others : List Char} {n : Nat} (blank : AllBlank blanks)
    (blank' : AllBlank others) (last : ∀ c, cs.getLast? = some c → isBlank c = false ∧ c ≠ '*') :
    trimEnd (dropEnd (· == '*') (trimEnd (cs ++ (blanks ++ stars n ++ others)))) = cs := by
  have trimmed : trimEnd cs = cs := trimEnd_eq_self fun c final => (last c final).1
  rw [← List.append_assoc, ← List.append_assoc, trimEnd_append_blanks blank']
  -- The blanks before the asterisks are the last thing to go. A label without asterisks keeps its end.
  cases n with
  | zero =>
    have bare : dropEnd (· == '*') cs = cs := by
      simpa using dropEnd_append_replicate 0 fun final => (last '*' final).2 rfl
    rw [stars, List.replicate_zero, List.append_nil, trimEnd_append_blanks blank, trimmed, bare,
      trimmed]
  | succ n =>
    have starred : trimEnd (cs ++ blanks ++ stars (n + 1)) = cs ++ blanks ++ stars (n + 1) := by
      apply trimEnd_eq_self
      intro c final
      rw [stars, List.replicate_succ', ← List.append_assoc, List.getLast?_concat] at final
      rw [← Option.some.inj final]
      rfl
    rw [starred, stars, dropEnd_append_replicate, trimEnd_append_blanks blank, trimmed]
    intro final
    rcases List.eq_nil_or_concat blanks with rfl | ⟨before, c, rfl⟩
    · rw [List.append_nil] at final
      exact (last '*' final).2 rfl
    · rw [List.concat_eq_append, ← List.append_assoc, List.getLast?_concat, Option.some.injEq] at final
      exact absurd (blank '*' (by simp [final])) (by decide)

/-- A label with blanks and asterisks around it is what is left without them. -/
theorem unboldLabel_of_spaced {m n : Nat} {label cs : List Char} (ends : HasPlainEnds label)
    (h : Spaced [stars m, label, stars n] cs) : unboldLabel cs = label := by
  obtain ⟨blanks, _, blank, rfl, between, _, blankBetween, rfl, others, final, blankOthers, rfl,
    blankFinal⟩ := h
  obtain ⟨c, rest, rfl, ink, thin⟩ := ends.first
  have last : ∀ d, rest.getLast? = some d → isBlank d = false ∧ d ≠ '*' := by
    intro d final
    apply ends.last
    rw [List.getLast?_cons, final]
    rfl
  obtain ⟨kept, blankKept, start⟩ := unbold_start m (rest ++ (others ++ stars n ++ final)) blank
    blankBetween ink thin
  rw [← List.cons_append, ← List.append_assoc between] at start
  rw [unboldLabel, start, dropEnd_append_cons (by simpa using thin), trim_blanks_append blankKept,
    trim_cons ink, unbold_end blankOthers blankFinal last]

/-- Only blanks and asterisks are taken off a label. -/
theorem exists_spaced_unboldLabel (label : List Char) :
    ∃ m n, Spaced [stars m, unboldLabel label, stars n] label := by
  obtain ⟨blanks, final, blank, blankFinal, whole⟩ := trim_cut label
  obtain ⟨m, started⟩ := exists_dropStart '*' (trim label)
  obtain ⟨⟨n, ended⟩, -⟩ := exists_dropEnd '*' (dropStart (· == '*') (trim label))
  obtain ⟨between, others, blankBetween, blankOthers, middle⟩ :=
    trim_cut (dropEnd (· == '*') (dropStart (· == '*') (trim label)))
  rw [ended, middle] at started
  rw [started] at whole
  refine ⟨m, n, blanks, _, blank, ?_, between, _, blankBetween, rfl, others, final, blankOthers, rfl,
    blankFinal⟩
  simpa [stars, unboldLabel] using whole

/-! ### Labels of the language between asterisks -/

theorem not_mem_of_isLanguageLabel {label : List Char} (h : IsLanguageLabel label) {c : Char}
    (special : c ∈ [':', '*', '-']) : c ∉ label := by
  have table : ∀ l ∈ languageLabels, [':', '*', '-'].all (fun c => plainLetter c ∉ l) = true := by decide
  intro inside
  have other := List.all_eq_true.mp (table _ h) c special
  exact absurd (List.mem_map_of_mem inside) (by simpa using other)

theorem isBlank_plainLetter {c : Char} (h : isBlank c = true) : isBlank (plainLetter c) = true := by
  have table : ∀ p ∈ blankPoints, isBlank (plainLetter (Char.ofNat p)) = true := by decide +kernel
  have point := table _ (isBlank_iff_mem_blankPoints.mp h)
  rwa [Char.ofNat_toNat] at point

theorem hasPlainEnds_of_isLanguageLabel {label : List Char} (h : IsLanguageLabel label) :
    HasPlainEnds label := by
  have table : ∀ l ∈ languageLabels, l ≠ [] ∧
      l.head?.all (isBlank · = false) = true ∧ l.getLast?.all (isBlank · = false) = true := by decide
  obtain ⟨filled, first, last⟩ := table _ h
  rw [List.head?_map, Option.all_eq_true] at first
  rw [List.getLast?_map, Option.all_eq_true] at last
  simp only [decide_eq_true_eq] at first last
  have plain : ∀ c ∈ label, isBlank (plainLetter c) = false → isBlank c = false ∧ c ≠ '*' := by
    intro c inside ink
    constructor
    · by_contra blank
      rw [isBlank_plainLetter (by simpa using blank)] at ink
      cases ink
    · rintro rfl
      exact not_mem_of_isLanguageLabel h (by simp) inside
  constructor
  · cases label with
    | nil => exact absurd rfl filled
    | cons c rest => exact ⟨c, rest, rfl, plain c (by simp) (first _ (by simp))⟩
  · intro c final
    apply plain c (List.mem_of_getLast? final)
    exact last _ (by simp [final])

/-! ### Shapes -/

/-- The line is a label of the language and a value around a colon, perhaps as an item of a list, with
`m` asterisks before the label, `n` behind it, and blanks around all parts. -/
def Written (m n : Nat) (line value : List Char) : Prop :=
  ∃ mark ∈ [[], "- ".toList], ∃ label left text, line = left ++ ':' :: text ∧
    Spaced [mark, stars m, label, stars n] left ∧ IsLanguageLabel label ∧ ¬ AllBlank text ∧
    value = trim text

/-- The line has one of the shapes `L: v`, `- L: v`, `**L**: v` and `- **L**: v`. -/
def Documented (line value : List Char) : Prop :=
  ∃ n ∈ [0, 2], Written n n line value

section

variable {line value : List Char}

theorem written_of_statesLanguage (h : StatesLanguage line value) : ∃ m n, Written m n line value := by
  obtain ⟨label, text, cut, -, recognized, filled, rfl⟩ := h
  obtain ⟨before, after, blankBefore, blankAfter, whole⟩ := trim_cut line
  obtain ⟨m, n, spaced⟩ := exists_spaced_unboldLabel label
  have named := contains_foldLabel_iff.mp recognized
  -- The blanks and the mark that were taken off stand in front of the label again.
  have marked : ∃ mark ∈ [[], "- ".toList], trim line = mark ++ label ++ ':' :: text := by
    rw [unmarked] at cut
    cases listed : "- ".toList.isPrefixOf? (trim line) with
    | none =>
      rw [listed, Option.getD_none] at cut
      exact ⟨[], by simp, cut⟩
    | some rest =>
      rw [listed, Option.getD_some] at cut
      refine ⟨"- ".toList, by simp, ?_⟩
      rw [← List.isPrefixOf?_eq_some_iff_append_eq.mp listed, cut, List.append_assoc]
  obtain ⟨mark, listed, same⟩ := marked
  refine ⟨m, n, mark, listed, unboldLabel label, before ++ mark ++ label, text ++ after, ?_,
    ⟨before, label, blankBefore, rfl, spaced⟩, named, ?_, (trim_append_blanks blankAfter).symm⟩
  · rw [whole, same]
    simp
  · exact fun blank => filled fun c inside => blank c (List.mem_append_left _ inside)

/-- Nothing before the colon but the mark has a colon or a dash. -/
theorem not_mem_of_spaced {m n : Nat} {label cs : List Char} (named : IsLanguageLabel label)
    (spaced : Spaced [stars m, label, stars n] cs) {c : Char} (special : c ∈ [':', '-']) : c ∉ cs := by
  have ink : isBlank c = false ∧ c ≠ '*' ∧ c ∈ [':', '*', '-'] := by
    rcases List.mem_pair.mp special with rfl | rfl <;> decide
  apply spaced.not_mem ink.1
  simp only [List.mem_cons, List.not_mem_nil, or_false, forall_eq_or_imp, forall_eq]
  exact ⟨not_mem_stars ink.2.1, not_mem_of_isLanguageLabel named ink.2.2, not_mem_stars ink.2.1⟩

theorem statesLanguage_of_written {m n : Nat} (h : Written m n line value) : StatesLanguage line value := by
  obtain ⟨mark, listed, label, left, text, rfl, ⟨blanks, rest, blank, rfl, spaced⟩, named, filled, rfl⟩ := h
  have ends := hasPlainEnds_of_isLanguageLabel named
  have inked : ¬ AllBlank rest := by
    intro all
    obtain ⟨c, others, rfl, ink, -⟩ := ends.first
    obtain ⟨_, _, -, rfl, _, _, -, rfl, -⟩ := spaced
    exact absurd (all c (by simp)) (by simp [ink])
  obtain ⟨cut, whole, same, kept⟩ :=
    exists_unmarked text listed inked (not_mem_of_spaced named spaced (by simp))
  rw [← unmarked_blanks_append blank, ← List.append_assoc, ← List.append_assoc] at whole
  refine ⟨cut, trimEnd text, whole, fun inside => ?_, ?_, ?_, (trim_trimEnd text).symm⟩
  · exact not_mem_of_spaced named spaced (by simp) (kept inside)
  · rw [unboldLabel, same, ← unboldLabel, unboldLabel_of_spaced ends spaced]
    exact contains_foldLabel_iff.mpr named
  · rwa [← trim_eq_nil_iff, trim_trimEnd, trim_eq_nil_iff]

/-! ### How many asterisks there are -/

/-- What may stand before a label: blanks, asterisks and the mark of a list item. -/
def isMarkup (c : Char) : Bool :=
  isBlank c || c == '*' || c == '-'

theorem isMarkup_of_allBlank {blanks : List Char} (blank : AllBlank blanks) :
    ∀ c ∈ blanks, isMarkup c = true := by
  intro c inside
  simp [isMarkup, blank c inside]

theorem isMarkup_of_mem_stars {n : Nat} : ∀ c ∈ stars n, isMarkup c = true := by
  intro c inside
  simp [isMarkup, List.eq_of_mem_replicate inside]

theorem count_star_of_allBlank {blanks : List Char} (blank : AllBlank blanks) : blanks.count '*' = 0 :=
  List.count_eq_zero.mpr fun inside => absurd (blank '*' inside) (by decide)

/-- The asterisks are the ones before the label and all the others before the colon. -/
theorem Written.count_stars {m n : Nat} (h : Written m n line value) :
    ∃ left text, line = left ++ ':' :: text ∧ ':' ∉ left ∧
      (left.takeWhile isMarkup).count '*' = m ∧ left.count '*' = m + n := by
  obtain ⟨mark, listed, label, left, text, whole, ⟨blanks, rest, blank, rfl, spaced⟩, named, -, -⟩ := h
  have plain : mark.count '*' = 0 ∧ ':' ∉ mark ∧ ∀ c ∈ mark, isMarkup c = true := by
    rw [← List.all_eq_true]
    rcases List.mem_pair.mp listed with rfl | rfl <;> decide
  refine ⟨_, text, whole, ?_, ?_⟩
  · simp only [List.mem_append, not_or]
    refine ⟨⟨fun inside => ?_, plain.2.1⟩, not_mem_of_spaced named spaced (by simp)⟩
    exact absurd (blank ':' inside) (by decide)
  obtain ⟨before, _, blankBefore, rfl, between, _, blankBetween, rfl, others, final, blankOthers, rfl,
    blankFinal⟩ := spaced
  replace blankFinal : AllBlank final := blankFinal
  have starless : label.count '*' = 0 :=
    List.count_eq_zero.mpr (not_mem_of_isLanguageLabel named (by simp))
  obtain ⟨c, label, rfl, ink, thin⟩ := (hasPlainEnds_of_isLanguageLabel named).first
  have stop : isMarkup c = false := by
    have dash : c ≠ '-' := by
      rintro rfl
      exact not_mem_of_isLanguageLabel named (c := '-') (by simp) (by simp)
    simp [isMarkup, ink, thin, dash]
  -- The label starts with the first character that is no markup.
  have markup : ∀ d ∈ blanks ++ mark ++ before ++ stars m ++ between, isMarkup d = true := by
    simp only [List.forall_mem_append]
    exact ⟨⟨⟨⟨isMarkup_of_allBlank blank, plain.2.2⟩, isMarkup_of_allBlank blankBefore⟩,
      isMarkup_of_mem_stars⟩, isMarkup_of_allBlank blankBetween⟩
  have cut : blanks ++ mark ++ (before ++ stars m ++ (between ++ (c :: label) ++
      (others ++ stars n ++ final))) = (blanks ++ mark ++ before ++ stars m ++ between) ++
        c :: (label ++ (others ++ stars n ++ final)) := by
    simp
  constructor
  · rw [cut, List.takeWhile_append_of_pos markup, List.takeWhile_cons_of_neg (by simp [stop])]
    simp [stars, count_star_of_allBlank, *]
  · simp only [List.count_append, count_star_of_allBlank, stars, List.count_replicate_self, *]
    omega

theorem Written.unique {m n m' n' : Nat} {value' : List Char} (h : Written m n line value)
    (h' : Written m' n' line value') : m = m' ∧ n = n' := by
  obtain ⟨left, text, whole, first, before, all⟩ := h.count_stars
  obtain ⟨left', text', whole', first', before', all'⟩ := h'.count_stars
  -- Both count the characters before the first colon.
  have cut := splitOnce_singleton_eq_some_iff.mpr ⟨whole, first⟩
  rw [splitOnce_singleton_eq_some_iff.mpr ⟨whole', first'⟩, Option.some.injEq, Prod.mk.injEq] at cut
  rw [cut.1] at before' all'
  omega

end

/-- A line states a language if it has a label of the language, with any numbers of asterisks on its two
sides, and a value. It has one of the four shapes if the numbers are both zero or both two. -/
theorem languageOfLine?_eq_some_iff_written (line value : List Char) :
    (languageOfLine? line = some value ↔ ∃ m n, Written m n line value) ∧
      (Documented line value ↔ languageOfLine? line = some value ∧
        ∀ m n other, Written m n line other → m = n ∧ (n = 0 ∨ n = 2)) := by
  have states : languageOfLine? line = some value ↔ ∃ m n, Written m n line value := by
    rw [languageOfLine?_eq_some_iff]
    constructor
    · exact written_of_statesLanguage
    · rintro ⟨m, n, written⟩
      exact statesLanguage_of_written written
  refine ⟨states, ?_⟩
  rw [states]
  constructor
  · rintro ⟨k, listed, written⟩
    refine ⟨⟨k, k, written⟩, fun m n other written' => ?_⟩
    obtain ⟨rfl, rfl⟩ := written.unique written'
    exact ⟨rfl, List.mem_pair.mp listed⟩
  · rintro ⟨⟨m, n, written⟩, balanced⟩
    obtain ⟨rfl, number⟩ := balanced m n value written
    exact ⟨m, List.mem_pair.mpr number, written⟩

/-- Bold print that ends behind the colon: the language then starts with the asterisks that end it. -/
theorem not_documented_misplaced :
    (LanguageChoice.mk none (Document.parse "## Configurações\n- **Linguagem:** Go") "python").language =
        "** Go" ∧
      languageOfLine? "- **Linguagem:** Go".toList = some "** Go".toList ∧
      ¬ ∃ value, Documented "- **Linguagem:** Go".toList value := by
  refine ⟨by decide +kernel, by decide +kernel, ?_⟩
  rintro ⟨value, n, -, written⟩
  have here : Written 2 0 "- **Linguagem:** Go".toList "** Go".toList := by
    refine ⟨"- ".toList, by simp, "Linguagem".toList, "- **Linguagem".toList, "** Go".toList, rfl, ?_,
      ?_, ?_, by decide⟩
    · exact ⟨[], "**Linguagem".toList, by simp [AllBlank], rfl, [], "Linguagem".toList,
        by simp [AllBlank], rfl, [], [], by simp [AllBlank], rfl, [], [], by simp [AllBlank], rfl,
        by simp [Spaced, AllBlank]⟩
    · show List.map plainLetter _ ∈ languageLabels
      decide +kernel
    · exact fun blank => absurd (blank 'G' (by decide)) (by decide)
  obtain ⟨two, zero⟩ := here.unique written
  omega

end SpecPrompt
