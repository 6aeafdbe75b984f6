import Mathlib.Algebra.GroupWithZero.Nat
import Mathlib.Data.List.Forall2
import SpecPrompt.Document.Parse
import SpecPrompt.Proofs.Document.Outline
import SpecPrompt.Proofs.SortedMap

/-!
# Writing sections and reading them back

The sections of a document survive being written and read again exactly if their titles and bodies
are plain. That plain sections survive is a computation. That no others do, not even by taking each
other's place, is a matter of ink: every character that is no line feed counts as ink, reading a
section never gains any, and whatever makes a section not plain loses some. Sections that come back
as they were have lost none.

## Main result

`sections_parse_sectionsToText_iff`: the sections of a document are read back from their text if
and only if each title is `PlainTitle` and each body is `PlainBody`.
-/

namespace SpecPrompt

open Chars

/-! ### Plain sections -/

/-- A title that a heading line can carry. -/
structure PlainTitle (title : String) : Prop where
  nonempty : title ≠ ""
  trimmed : Text.trim title = title
  oneLine : '\n' ∉ title.toList

/-- A body none of whose lines means anything but text. -/
structure PlainBody (body : String) : Prop where
  trimmed : Text.trim body = body
  noReturn : ¬ "\r\n".toList <:+: body.toList
  text : ∀ line ∈ body.toList.splitOn '\n', ¬ Opens line ∧ ¬ IsTitle line

private theorem toList_trim (s : String) : (Text.trim s).toList = trim s.toList :=
  String.toList_ofList

theorem trim_eq_iff {s : String} : Text.trim s = s ↔ trim s.toList = s.toList := by
  rw [← toList_trim, String.toList_inj]

/-- A line between two line feeds, or at the end. -/
private theorem splitOn_cut {cs piece : List Char} (h : piece ∈ cs.splitOn '\n') :
    (∃ before, cs = before ++ piece) ∨ ∃ before after, cs = before ++ piece ++ '\n' :: after := by
  obtain ⟨ls, ms, pieces⟩ := List.append_of_mem h
  have whole : cs ++ ['\n'] = endLines ls ++ piece ++ '\n' :: endLines ms := by
    rw [← endLines_splitOn, pieces, endLines_append]
    simp [endLines]
  -- The piece is the last one, or a line feed stands behind it.
  rcases List.eq_nil_or_concat ms with rfl | ⟨ms, last, rfl⟩
  · left
    exact ⟨endLines ls, List.append_cancel_right (whole.trans (by simp [endLines]))⟩
  · right
    refine ⟨endLines ls, endLines ms ++ last, List.append_cancel_right (whole.trans ?_)⟩
    simp [endLines]

/-- No line of a text ends in a carriage return if none stands before a line feed or at the end. -/
private theorem dropReturn_of_mem_splitOn {cs line : List Char} (noReturn : ¬ "\r\n".toList <:+: cs)
    (last : cs.getLast? ≠ some '\r') (h : line ∈ cs.splitOn '\n') : dropReturn line = line := by
  rcases dropReturn_cases line with same | cut
  · exact same
  · exfalso
    rw [cut] at h
    rcases splitOn_cut h with ⟨before, rfl⟩ | ⟨before, after, rfl⟩
    · simp at last
    · exact noReturn ⟨before ++ dropReturn line, after, by simp⟩

/-- The piece before a line feed that follows a carriage return ends in that carriage return. -/
theorem noReturn_of_splitOn {cs : List Char}
    (h : ∀ line ∈ cs.splitOn '\n', dropReturn line = line) : ¬ "\r\n".toList <:+: cs := by
  rintro ⟨before, after, rfl⟩
  have cut : before ++ "\r\n".toList ++ after = (before ++ ['\r']) ++ '\n' :: after := by simp
  rw [cut, List.splitOn_append_cons_self] at h
  obtain ⟨ls, last, pieces⟩ : ∃ ls last, (before ++ ['\r']).splitOn '\n' = ls ++ [last] :=
    ⟨_, _, (List.dropLast_concat_getLast (List.splitOn_ne_nil '\n' _)).symm⟩
  have whole : endLines ls ++ last = before ++ ['\r'] := by
    have := endLines_splitOn (before ++ ['\r'])
    rw [pieces, endLines_append] at this
    exact List.append_cancel_right (Eq.trans (by simp [endLines]) this)
  -- The last piece of what stands before the line feed ends as that does.
  rcases List.eq_nil_or_concat last with rfl | ⟨line, c, rfl⟩
  · rcases List.eq_nil_or_concat ls with rfl | ⟨ls, l, rfl⟩
    · simp [endLines] at whole
    · have : some '\n' = some '\r' := by simpa [endLines] using congrArg List.getLast? whole
      simp at this
  · have final : c = '\r' := by
      have := congrArg List.getLast? whole
      simpa using this
    subst final
    have kept := h (line ++ ['\r']) (by simp [pieces])
    rw [dropReturn_append_return] at kept
    simpa using congrArg List.length kept

/-! ### Sections as lines -/

/-- The lines of a body as it is written: an empty body has none. -/
def bodyLines (body : String) : List (List Char) :=
  if body.isEmpty then [] else body.toList.splitOn '\n'

private theorem mem_splitOn_of_mem_bodyLines {body : String} {line : List Char}
    (h : line ∈ bodyLines body) : line ∈ body.toList.splitOn '\n' := by
  rw [bodyLines] at h
  split at h
  · simp at h
  · exact h

private theorem mem_bodyLines_of_mem_splitOn {body : String} {line : List Char}
    (h : line ∈ body.toList.splitOn '\n') : line ∈ bodyLines body ∨ line = [] := by
  rw [bodyLines]
  split
  next empty =>
    rw [String.isEmpty_iff.mp empty] at h
    exact .inr (by simpa using h)
  · exact .inl h

private theorem endLines_bodyLines (body : String) :
    endLines (bodyLines body) = if body.isEmpty then [] else body.toList ++ ['\n'] := by
  rw [bodyLines]
  split
  · rfl
  · exact endLines_splitOn body.toList

private theorem trim_endLines_bodyLines (body : String) :
    trim (endLines (bodyLines body)) = trim body.toList := by
  rw [endLines_bodyLines]
  split
  next empty => rw [String.isEmpty_iff.mp empty]; rfl
  · exact trim_append_blanks (by simp [AllBlank, isBlank])

/-- The lines of a section as it is written. -/
def writtenLines (title body : String) : List (List Char) :=
  ("## ".toList ++ title.toList) :: bodyLines body

private theorem endLines_writtenLines (title body : String) :
    endLines (writtenLines title body) = Document.sectionText title body := by
  have heading : endLines (writtenLines title body) =
      "## ".toList ++ title.toList ++ '\n' :: endLines (bodyLines body) := by
    simp [writtenLines, endLines]
  rw [heading, endLines_bodyLines, Document.sectionText]
  split <;> simp

/-- What separates two sections, or nothing: an empty line at most. -/
def IsGap (gap : List (List Char)) : Prop :=
  gap = [] ∨ gap = [[]]

private theorem eq_nil_of_mem_gap {gap : List (List Char)} {line : List Char} (h : IsGap gap)
    (member : line ∈ gap) : line = [] := by
  rcases h with rfl | rfl
  · simp at member
  · simpa using member

/-- Some lines of a text that stand for a section: as they were written, and perhaps with an empty
line behind them. -/
def StandsFor (part : List (List Char)) (e : String × String) : Prop :=
  ∃ gap, IsGap gap ∧ part = (writtenLines e.1 e.2 ++ gap).map dropReturn

/-- The text of some sections, cut into lines, is the sections one after another. -/
theorem lines_joinLines {es : List (String × String)}
    (oneLine : ∀ e ∈ es, '\n' ∉ e.1.toList) :
    ∃ parts, lines (joinLines (es.map fun e => Document.sectionText e.1 e.2)) = parts.flatten ∧
      List.Forall₂ StandsFor parts es := by
  have clean : ∀ e ∈ es, ∀ line ∈ writtenLines e.1 e.2, '\n' ∉ line := by
    intro e he line hline
    rw [writtenLines] at hline
    rcases List.mem_cons.mp hline with rfl | hline
    · simpa using oneLine e he
    · exact not_mem_of_mem_splitOn (mem_splitOn_of_mem_bodyLines hline)
  induction es with
  | nil => exact ⟨[], lines_nil, .nil⟩
  | cons e es ih =>
    have first := clean e (by simp)
    cases es with
    | nil =>
      refine ⟨[(writtenLines e.1 e.2).map dropReturn], ?_, .cons ⟨[], .inl rfl, by simp⟩ .nil⟩
      simp [joinLines, ← endLines_writtenLines, lines_endLines first]
    | cons f es =>
      obtain ⟨parts, cut, stand⟩ :=
        ih (fun g hg => oneLine g (by simp [hg])) (fun g hg => clean g (by simp [hg]))
      -- Between two sections the separator adds an empty line to the first of them.
      refine ⟨(writtenLines e.1 e.2 ++ [[]]).map dropReturn :: parts, ?_,
        .cons ⟨[[]], .inr rfl, rfl⟩ stand⟩
      have next : joinLines ((e :: f :: es).map fun e => Document.sectionText e.1 e.2) =
          endLines (writtenLines e.1 e.2 ++ [[]]) ++
            joinLines ((f :: es).map fun e => Document.sectionText e.1 e.2) := by
        rw [endLines_append, endLines_writtenLines]
        simp [joinLines, endLines, List.intercalate_cons_cons]
      have unbroken : ∀ line ∈ writtenLines e.1 e.2 ++ [[]], '\n' ∉ line := by
        intro line hline
        rcases List.mem_append.mp hline with hline | hline
        · exact first line hline
        · simp [List.mem_singleton.mp hline]
      rw [next, lines_endLines_append unbroken, cut]
      rfl

/-! ### Plain sections are read back -/

/-- The sections that an outline names, with their bodies. -/
def Outline.named (o : Outline) : List (String × String) :=
  (o.blocks.filter fun b => !b.name.isEmpty).map fun b =>
    (String.ofList b.name, String.ofList b.body)

theorem Outline.named_append_cons (preamble : List (List Char)) (o p : Outline)
    (b : SectionBlock) :
    Outline.named ⟨preamble, o.blocks ++ b :: p.blocks⟩ =
      o.named ++ ((if b.name = [] then [] else [(String.ofList b.name, String.ofList b.body)]) ++
        p.named) := by
  rw [Outline.named, List.filter_append, List.map_append, List.filter_cons]
  cases empty : b.name <;> simp [Outline.named, empty]

theorem sections_parse (text : String) :
    (Document.parse text).sections = .ofList (Outline.ofLines (lines text.toList)).named := rfl

/-- A part that stands for a section is a heading and the outline of the lines behind it. -/
private theorem ofLines_part {part : List (List Char)} {title body : String}
    (stands : StandsFor part (title, body)) :
    ∃ gap inner, IsGap gap ∧ Outline.ofLines ((bodyLines body ++ gap).map dropReturn) = inner ∧
      Outline.ofLines part = ⟨[], ⟨trim title.toList, inner.preamble⟩ :: inner.blocks⟩ := by
  obtain ⟨gap, pad, rfl⟩ := stands
  refine ⟨gap, _, pad, rfl, ?_⟩
  simp only [writtenLines, List.cons_append, List.map_cons]
  rw [Outline.ofLines_cons, Outline.addLine_opening]
  rw [dropReturn_append (by decide), sectionName?_heading, trim_dropReturn]

/-- The lines of a plain body, and those that separate it from what follows, mean nothing but
text. -/
private theorem plain_of_mem_bodyLines {body : String} {gap : List (List Char)} (pad : IsGap gap)
    (plain : PlainBody body) {line : List Char} (h : line ∈ bodyLines body ++ gap) :
    dropReturn line = line ∧ ¬ Opens line ∧ ¬ IsTitle line := by
  rcases List.mem_append.mp h with inside | behind
  · have cut := mem_splitOn_of_mem_bodyLines inside
    refine ⟨dropReturn_of_mem_splitOn plain.noReturn (fun last => ?_) cut, plain.text line cut⟩
    -- At the end of the body a carriage return would have been trimmed.
    rw [← trim_eq_iff.mp plain.trimmed] at last
    exact absurd (isBlank_getLast_trim last) (by decide)
  · rw [eq_nil_of_mem_gap pad behind]
    decide

private theorem body_bodyLines {body : String} {gap : List (List Char)} (pad : IsGap gap)
    (plain : PlainBody body) (name : List Char) :
    SectionBlock.body ⟨name, bodyLines body ++ gap⟩ = body.toList := by
  have untitled : (bodyLines body ++ gap).filter (fun line => (titleText? line).isNone) =
      bodyLines body ++ gap :=
    List.filter_eq_self.mpr fun line hline =>
      titleText?_isNone_iff.mpr (plain_of_mem_bodyLines pad plain hline).2.2
  have blank : AllBlank (endLines gap) := by
    rcases pad with rfl | rfl <;> simp [AllBlank, endLines, isBlank]
  rw [SectionBlock.body, untitled, trim_joinLines, endLines_append, trim_append_blanks blank,
    trim_endLines_bodyLines, trim_eq_iff.mp plain.trimmed]

/-- A plain section is what is read where it was written. -/
private theorem named_of_plain {part : List (List Char)} {title body : String}
    (stands : StandsFor part (title, body)) (plainTitle : PlainTitle title)
    (plainBody : PlainBody body) : (Outline.ofLines part).named = [(title, body)] := by
  obtain ⟨gap, inner, pad, rfl, outline⟩ := ofLines_part stands
  have unchanged : (bodyLines body ++ gap).map dropReturn = bodyLines body ++ gap := by
    refine (List.map_congr_left fun line hline => ?_).trans (List.map_id _)
    exact (plain_of_mem_bodyLines pad plainBody hline).1
  have silent : Outline.ofLines (bodyLines body ++ gap) = ⟨bodyLines body ++ gap, []⟩ :=
    Outline.ofLines_of_not_opens fun line hline => (plain_of_mem_bodyLines pad plainBody hline).2.1
  have nonempty : title.toList ≠ [] := fun empty =>
    plainTitle.nonempty (String.toList_eq_nil_iff.mp empty)
  rw [Outline.named, outline, unchanged, silent, trim_eq_iff.mp plainTitle.trimmed]
  simp [body_bodyLines pad plainBody, nonempty]

theorem named_of_forall₂_plain {parts : List (List (List Char))}
    {es : List (String × String)} (stand : List.Forall₂ StandsFor parts es)
    (plain : ∀ e ∈ es, PlainTitle e.1 ∧ PlainBody e.2) :
    (parts.flatMap fun part => (Outline.ofLines part).named) = es := by
  induction stand with
  | nil => rfl
  | @cons part e parts es stands _ ih =>
    obtain ⟨title, body⟩ := plain e (by simp)
    rw [List.flatMap_cons, named_of_plain stands title body, ih fun f hf => plain f (by simp [hf])]
    rfl

/-! ### Ink -/

/-- The number of characters that are no line feeds. -/
def ink (cs : List Char) : Nat :=
  cs.countP (· != '\n')

/-- The ink of some lines. -/
def inkOf (ls : List (List Char)) : Nat :=
  (ls.map ink).sum

@[simp] theorem ink_append (cs ds : List Char) : ink (cs ++ ds) = ink cs + ink ds :=
  List.countP_append

theorem inkOf_append (ls ms : List (List Char)) : inkOf (ls ++ ms) = inkOf ls + inkOf ms := by
  simp [inkOf]

theorem ink_le_of_part {cs ds : List Char} (h : cs <:+: ds) : ink cs ≤ ink ds :=
  h.sublist.countP_le

theorem ink_trim_le (cs : List Char) : ink (trim cs) ≤ ink cs :=
  ink_le_of_part (isInfix_trim cs)

theorem ink_endLines (ls : List (List Char)) : ink (endLines ls) = inkOf ls := by
  induction ls with
  | nil => rfl
  | cons l ls ih =>
    have written : endLines (l :: ls) = l ++ ['\n'] ++ endLines ls := by simp [endLines]
    rw [written, ink_append, ink_append, ih]
    rfl

theorem ink_eq_length {cs : List Char} (h : '\n' ∉ cs) : ink cs = cs.length := by
  refine List.countP_eq_length.mpr fun c hc => ?_
  simpa using fun same : c = '\n' => h (same ▸ hc)

/-- Text on one line that loses no ink by trimming loses nothing. -/
theorem trim_eq_self_of_ink {cs : List Char} (oneLine : '\n' ∉ cs) (h : ink cs ≤ ink (trim cs)) :
    trim cs = cs := by
  refine (isInfix_trim cs).eq_of_length (Nat.le_antisymm (isInfix_trim cs).length_le ?_)
  rwa [← ink_eq_length oneLine, ← ink_eq_length fun newline => oneLine (mem_of_mem_trim newline)]

theorem inkOf_map_dropReturn_le (ls : List (List Char)) : inkOf (ls.map dropReturn) ≤ inkOf ls := by
  induction ls with
  | nil => exact Nat.le_refl _
  | cons l ls ih => exact Nat.add_le_add (ink_le_of_part (isPrefix_dropReturn l).isInfix) ih

/-- Lines that lose no ink lose no carriage return. -/
theorem dropReturn_eq_self_of_ink {ls : List (List Char)}
    (h : inkOf ls ≤ inkOf (ls.map dropReturn)) : ∀ line ∈ ls, dropReturn line = line := by
  induction ls with
  | nil => simp
  | cons l ls ih =>
    have rest := inkOf_map_dropReturn_le ls
    have first : ink (dropReturn l) ≤ ink l := ink_le_of_part (isPrefix_dropReturn l).isInfix
    simp only [inkOf, List.map_cons, List.sum_cons] at h rest
    intro line hline
    -- If the first line lost its carriage return, the others could not make up for it.
    rcases List.mem_cons.mp hline with rfl | hline
    · rcases dropReturn_cases line with same | cut
      · exact same
      · have lost : ink line = ink (dropReturn line) + 1 := by
          conv => lhs; rw [cut, ink_append]
          rfl
        omega
    · refine ih ?_ line hline
      simp only [inkOf]
      omega

theorem inkOf_filter_le (p : List Char → Bool) (ls : List (List Char)) :
    inkOf (ls.filter p) ≤ inkOf ls := by
  induction ls with
  | nil => exact Nat.le_refl _
  | cons l ls ih =>
    rw [List.filter_cons]
    split <;> simp only [inkOf, List.map_cons, List.sum_cons] at ih ⊢ <;> omega

/-- Lines that lose no ink lose no title. -/
theorem not_isTitle_of_ink {ls : List (List Char)}
    (h : inkOf ls ≤ inkOf (ls.filter fun line => (titleText? line).isNone)) :
    ∀ line ∈ ls, ¬ IsTitle line := by
  induction ls with
  | nil => simp
  | cons l ls ih =>
    have rest := inkOf_filter_le (fun line => (titleText? line).isNone) ls
    by_cases title : IsTitle l
    -- The marker alone is more ink than the other lines can gain.
    · exfalso
      have marked : 2 ≤ ink l := by
        obtain ⟨rest, rfl⟩ := title
        rw [ink_append]
        exact Nat.le_add_right _ _
      have dropped : (titleText? l).isNone = false := by
        rw [← Bool.not_eq_true, titleText?_isNone_iff]
        exact not_not_intro title
      simp only [List.filter_cons, dropped, Bool.false_eq_true, if_false, inkOf, List.map_cons,
        List.sum_cons] at h rest
      omega
    · have kept : (titleText? l).isNone = true := titleText?_isNone_iff.mpr title
      simp only [List.filter_cons, kept, if_true, inkOf, List.map_cons, List.sum_cons] at h rest
      intro line hline
      rcases List.mem_cons.mp hline with rfl | hline
      · exact title
      · refine ih ?_ line hline
        simp only [inkOf]
        omega

/-! ### Reading loses ink -/

/-- The ink of named bodies. -/
def inkOfPairs (es : List (String × String)) : Nat :=
  (es.map fun e => ink e.1.toList + ink e.2.toList).sum

/-- The ink of blocks, their lines taken as they are. -/
def inkOfBlocks (blocks : List SectionBlock) : Nat :=
  (blocks.map fun b => ink b.name + inkOf b.lines).sum

private theorem ink_sectionName_lt {line name : List Char} (h : sectionName? line = some name) :
    ink name < ink line := by
  have opens : Opens line := sectionName?_isSome_iff.mp (by rw [h]; rfl)
  -- Of either marker at least one character is lost.
  rcases opens with ⟨rest, rfl⟩ | ⟨rest, rfl⟩
  · have cut : name = dropEnd (· == ']') (trim rest) := by
      simpa [sectionName?_bracket] using h.symm
    have kept : ink (dropEnd (· == ']') (trim rest)) ≤ ink (trim rest) :=
      ink_le_of_part (List.rdropWhile_prefix _ _).isInfix
    have marker : ink ("[".toList ++ rest) = 1 + ink rest := by
      rw [ink_append]
      rfl
    have := ink_trim_le rest
    rw [cut]
    omega
  · have cut : name = trim rest := by
      rw [sectionName?_heading] at h
      exact (Option.some.inj h).symm
    have marker : ink ("## ".toList ++ rest) = 3 + ink rest := by
      rw [ink_append]
      rfl
    have := ink_trim_le rest
    rw [cut]
    omega

/-- Cutting lines into sections loses some ink for each section. -/
private theorem inkOf_ofLines_le (ls : List (List Char)) :
    inkOf (Outline.ofLines ls).preamble + inkOfBlocks (Outline.ofLines ls).blocks +
      (Outline.ofLines ls).blocks.length ≤ inkOf ls := by
  induction ls with
  | nil => exact Nat.le_refl _
  | cons l ls ih =>
    have whole : inkOf (l :: ls) = ink l + inkOf ls := rfl
    rw [Outline.ofLines_cons]
    cases opening : sectionName? l with
    | some name =>
      have lost := ink_sectionName_lt opening
      simp only [Outline.addLine_opening opening, inkOfBlocks, List.map_cons, List.sum_cons,
        List.length_cons] at ih ⊢
      have none : inkOf [] = 0 := rfl
      omega
    | none =>
      rw [Outline.addLine_other (sectionName?_eq_none_iff.mp opening)]
      have more : inkOf (l :: (Outline.ofLines ls).preamble) =
          ink l + inkOf (Outline.ofLines ls).preamble := rfl
      simp only [more]
      omega

private theorem ink_body_le (b : SectionBlock) :
    ink b.body ≤ inkOf (b.lines.filter fun line => (titleText? line).isNone) := by
  rw [SectionBlock.body, trim_joinLines, ← ink_endLines]
  exact ink_trim_le _

private theorem inkOfPairs_named_le (o : Outline) : inkOfPairs o.named ≤ inkOfBlocks o.blocks := by
  obtain ⟨preamble, blocks⟩ := o
  induction blocks with
  | nil => exact Nat.le_refl _
  | cons b blocks ih =>
    have body : ink b.body ≤ inkOf b.lines :=
      (ink_body_le b).trans (inkOf_filter_le _ _)
    simp only [Outline.named, inkOfPairs, inkOfBlocks, List.filter_cons, List.map_cons,
      List.sum_cons] at ih ⊢
    split
    · simp only [List.map_cons, List.sum_cons, String.toList_ofList]
      omega
    · omega

/-- What a section has to be for no ink of it to be lost. -/
structure KeepsInk (title body : String) : Prop where
  trimmed : trim title.toList = title.toList
  text : ∀ line ∈ body.toList.splitOn '\n',
    ¬ Opens line ∧ ¬ IsTitle line ∧ dropReturn line = line

private theorem inkOf_bodyLines (body : String) : inkOf (bodyLines body) = ink body.toList := by
  rw [← ink_endLines, endLines_bodyLines]
  split
  next empty =>
    rw [String.isEmpty_iff.mp empty]
    rfl
  · rw [ink_append]
    rfl

private theorem inkOf_bodyLines_append (body : String) {gap : List (List Char)} (pad : IsGap gap) :
    inkOf (bodyLines body ++ gap) = ink body.toList := by
  have empty : inkOf gap = 0 := by rcases pad with rfl | rfl <;> rfl
  rw [inkOf_append, empty, inkOf_bodyLines, Nat.add_zero]

/-- What is read from a heading and the outline of the lines behind it. -/
private theorem inkOfPairs_heading_le (name : List Char) (inner : Outline) :
    inkOfPairs (Outline.named ⟨[], ⟨name, inner.preamble⟩ :: inner.blocks⟩) ≤
      ink name + inkOf (inner.preamble.filter fun line => (titleText? line).isNone) +
        inkOfBlocks inner.blocks := by
  have rest := inkOfPairs_named_le inner
  have body := ink_body_le ⟨name, inner.preamble⟩
  simp only [Outline.named, inkOfPairs, List.filter_cons] at rest ⊢
  split
  · simp only [List.map_cons, List.sum_cons, String.toList_ofList]
    simp only at body
    omega
  · omega

/-- A section keeps its ink if nothing of it is lost in reading the lines of its body. -/
private theorem keepsInk_of_ink {title body : String} {gap : List (List Char)} {inner : Outline}
    (oneLine : '\n' ∉ title.toList) (pad : IsGap gap)
    (cut : Outline.ofLines ((bodyLines body ++ gap).map dropReturn) = inner)
    (tight : ink title.toList + ink body.toList ≤ ink (trim title.toList) +
      inkOf (inner.preamble.filter fun line => (titleText? line).isNone) +
        inkOfBlocks inner.blocks) :
    KeepsInk title body := by
  have whole := inkOf_bodyLines_append body pad
  have returns := inkOf_map_dropReturn_le (bodyLines body ++ gap)
  have cutting := inkOf_ofLines_le ((bodyLines body ++ gap).map dropReturn)
  rw [cut] at cutting
  have titles := inkOf_filter_le (fun line => (titleText? line).isNone) inner.preamble
  have trimming := ink_trim_le title.toList
  -- None of these steps can lose any ink, the cutting into sections none to markers.
  have blockless : inner.blocks = [] := List.length_eq_zero_iff.mp (by omega)
  obtain ⟨silent, preamble⟩ := Outline.not_opens_of_blocks_nil (by rw [cut, blockless])
  rw [cut] at preamble
  have untitled := not_isTitle_of_ink (show inkOf inner.preamble ≤ _ by omega)
  rw [preamble] at untitled
  have unchanged := dropReturn_eq_self_of_ink (show inkOf (bodyLines body ++ gap) ≤ _ by omega)
  refine ⟨trim_eq_self_of_ink oneLine (by omega), fun line hline => ?_⟩
  rcases mem_bodyLines_of_mem_splitOn hline with member | rfl
  · have here : line ∈ bodyLines body ++ gap := List.mem_append_left _ member
    have mapped : dropReturn line ∈ (bodyLines body ++ gap).map dropReturn :=
      List.mem_map_of_mem here
    exact ⟨fun opens => silent _ mapped (opens_dropReturn_iff.mpr opens),
      fun title => untitled _ mapped (isTitle_dropReturn_iff.mpr title), unchanged line here⟩
  · decide

/-- What is read where a section was written has no more ink than the section, and has as much only
if the section keeps its ink. -/
private theorem inkOfPairs_part {part : List (List Char)} {title body : String}
    (stands : StandsFor part (title, body)) (oneLine : '\n' ∉ title.toList) :
    inkOfPairs (Outline.ofLines part).named ≤ ink title.toList + ink body.toList ∧
      (ink title.toList + ink body.toList ≤ inkOfPairs (Outline.ofLines part).named →
        KeepsInk title body) := by
  obtain ⟨gap, inner, pad, cut, outline⟩ := ofLines_part stands
  have read := inkOfPairs_heading_le (trim title.toList) inner
  rw [← outline] at read
  refine ⟨?_, fun tight => keepsInk_of_ink oneLine pad cut (tight.trans read)⟩
  have whole := inkOf_bodyLines_append body pad
  have returns := inkOf_map_dropReturn_le (bodyLines body ++ gap)
  have cutting := inkOf_ofLines_le ((bodyLines body ++ gap).map dropReturn)
  rw [cut] at cutting
  have titles := inkOf_filter_le (fun line => (titleText? line).isNone) inner.preamble
  have trimming := ink_trim_le title.toList
  omega

/-- Sections that come back with all their ink keep it one by one. -/
theorem keepsInk_of_forall₂ {parts : List (List (List Char))} {es : List (String × String)}
    (stand : List.Forall₂ StandsFor parts es) (oneLine : ∀ e ∈ es, '\n' ∉ e.1.toList) :
    inkOfPairs (parts.flatMap fun part => (Outline.ofLines part).named) ≤ inkOfPairs es ∧
      (inkOfPairs es ≤ inkOfPairs (parts.flatMap fun part => (Outline.ofLines part).named) →
        ∀ e ∈ es, KeepsInk e.1 e.2) := by
  induction stand with
  | nil => simp
  | @cons part e parts es stands _ ih =>
    obtain ⟨restLe, restTight⟩ := ih fun e he => oneLine e (by simp [he])
    obtain ⟨partLe, partTight⟩ := inkOfPairs_part stands (oneLine e (by simp))
    simp only [inkOfPairs, List.flatMap_cons, List.map_append, List.sum_append, List.map_cons,
      List.sum_cons] at *
    refine ⟨by omega, fun tight f hf => ?_⟩
    rcases List.mem_cons.mp hf with rfl | hf
    · exact partTight (by omega)
    · exact restTight (by omega) f hf

/-! ### The round trip -/

theorem named_ofLines_flatten {parts : List (List (List Char))}
    {es : List (String × String)} (stand : List.Forall₂ StandsFor parts es) :
    (Outline.ofLines parts.flatten).named =
      parts.flatMap fun part => (Outline.ofLines part).named := by
  have start : ∀ part ∈ parts, (Outline.ofLines part).preamble = [] := by
    induction stand with
    | nil => simp
    | cons stands _ ih =>
      obtain ⟨gap, inner, -, -, outline⟩ := ofLines_part stands
      simp only [List.mem_cons, forall_eq_or_imp]
      exact ⟨by rw [outline], ih⟩
  rw [Outline.ofLines_flatten start]
  simp [Outline.named, List.filter_flatMap, List.map_flatMap]

/-- The sections read from a text have names on one line and trimmed bodies. -/
theorem of_mem_named {cs : List Char} {e : String × String}
    (h : e ∈ (Outline.ofLines (lines cs)).named) :
    e.1 ≠ "" ∧ '\n' ∉ e.1.toList ∧ Text.trim e.2 = e.2 := by
  obtain ⟨b, hb, rfl⟩ := List.mem_map.mp h
  obtain ⟨block, nonempty⟩ := List.mem_filter.mp hb
  obtain ⟨line, hline, named⟩ := Outline.exists_sectionName_of_mem_blocks block
  refine ⟨fun empty => ?_, fun newline => ?_, ?_⟩
  · simp [String.ofList_eq_empty_iff.mp empty] at nonempty
  · rw [String.toList_ofList] at newline
    exact not_newline_mem_of_mem_lines hline ((isInfix_sectionName named).subset newline)
  · rw [trim_eq_iff, String.toList_ofList, SectionBlock.body, trim_trim]

/-- The sections of a document are read back from their text exactly if all of them are plain. -/
theorem sections_parse_sectionsToText_iff (d : Document) :
    (Document.parse d.sectionsToText).sections = d.sections ↔
      ∀ title body, (title, body) ∈ d.sections.toList → PlainTitle title ∧ PlainBody body := by
  have text : d.sectionsToText.toList =
      joinLines (d.sections.toList.map fun e => Document.sectionText e.1 e.2) :=
    String.toList_ofList
  rw [sections_parse]
  constructor
  -- What is read has one line for each title, so the text written is cut into the sections.
  · intro same
    have each : ∀ e ∈ d.sections.toList,
        e.1 ≠ "" ∧ '\n' ∉ e.1.toList ∧ Text.trim e.2 = e.2 := by
      intro e he
      rw [← same] at he
      exact of_mem_named (SortedMap.mem_of_mem_ofList he)
    obtain ⟨parts, cut, stand⟩ := lines_joinLines fun e he => (each e he).2.1
    rw [text, cut, named_ofLines_flatten stand] at same
    -- Repeated titles only lose ink, so what is read has all the ink that was written.
    have noLess : inkOfPairs d.sections.toList ≤
        inkOfPairs (parts.flatMap fun part => (Outline.ofLines part).named) := by
      conv => lhs; rw [← same]
      exact SortedMap.sum_ofList_le _ _
    intro title body member
    obtain ⟨nonempty, oneLine, trimmed⟩ := each _ member
    have keeps := (keepsInk_of_forall₂ stand fun e he => (each e he).2.1).2 noLess _ member
    exact ⟨⟨nonempty, trim_eq_iff.mpr keeps.trimmed, oneLine⟩,
      ⟨trimmed, noReturn_of_splitOn fun line hline => (keeps.text line hline).2.2,
        fun line hline => ⟨(keeps.text line hline).1, (keeps.text line hline).2.1⟩⟩⟩
  · intro plain
    obtain ⟨parts, cut, stand⟩ := lines_joinLines fun e (he : e ∈ d.sections.toList) =>
      (plain e.1 e.2 he).1.oneLine
    rw [text, cut, named_ofLines_flatten stand]
    rw [named_of_forall₂_plain stand fun e he => plain e.1 e.2 he, SortedMap.ofList_toList]

end SpecPrompt
