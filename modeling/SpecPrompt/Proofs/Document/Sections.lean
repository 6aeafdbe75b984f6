import SpecPrompt.Proofs.Document.RoundTrip

/-!
# Sections, line by line

The sections of a text, said of its lines alone. A section is there for each name that some marker
gives, its body is what stands behind the last marker with that name and before the next marker of any
kind, and title lines are left out. So a line before the first marker, or behind a marker that gives no
name, is in no body.

## Main result

`get?_sections_parse`: these are the sections of every text, and the lines in no body do not matter.
-/

namespace SpecPrompt

open Chars

/-! ### The last of its kind -/

section

variable {α : Type} {p : α → Prop}

/-- `a` is the last one in `as` to satisfy `p`, and `after` is what stands behind it. -/
def IsLast (p : α → Prop) (as : List α) (a : α) (after : List α) : Prop :=
  ∃ before, as = before ++ a :: after ∧ p a ∧ ∀ b ∈ after, ¬ p b

theorem exists_isLast {as : List α} (h : ∃ a ∈ as, p a) : ∃ a after, IsLast p as a after := by
  induction as with
  | nil => simp at h
  | cons b bs ih =>
    by_cases later : ∃ a ∈ bs, p a
    · obtain ⟨a, after, before, rfl, holds, none⟩ := ih later
      exact ⟨a, after, b :: before, rfl, holds, none⟩
    · have first : p b := by
        obtain ⟨a, member, holds⟩ := h
        rcases List.mem_cons.mp member with rfl | member
        · exact holds
        · exact absurd ⟨a, member, holds⟩ later
      exact ⟨b, bs, [], rfl, first, fun a member holds => later ⟨a, member, holds⟩⟩

end

/-! ### Names -/

/-- The line opens a section and gives it this name, which may be empty. -/
inductive Names : List Char → List Char → Prop
  | heading (rest : List Char) : Names ("## ".toList ++ rest) (trim rest)
  | bracketed {rest name : List Char} {n : Nat} (cut : trim rest = name ++ List.replicate n ']')
      (last : name.getLast? ≠ some ']') : Names ('[' :: rest) name

theorem exists_dropEnd (c : Char) (cs : List Char) :
    (∃ n, cs = dropEnd (· == c) cs ++ List.replicate n c) ∧
      (dropEnd (· == c) cs).getLast? ≠ some c := by
  have kept : dropEnd (· == c) cs ++ cs.rtakeWhile (· == c) = cs :=
    List.rdropWhile_append_rtakeWhile
  constructor
  · have same : cs.rtakeWhile (· == c) = List.replicate (cs.rtakeWhile (· == c)).length c :=
      List.eq_replicate_of_mem fun d hd => by simpa using List.mem_rtakeWhile_imp hd
    exact ⟨_, by rw [← same, kept]⟩
  · intro final
    have filled : cs.rdropWhile (· == c) ≠ [] := by
      intro none
      have : dropEnd (· == c) cs = [] := none
      simp [this] at final
    have last := List.rdropWhile_last_not (· == c) cs filled
    have same : (cs.rdropWhile (· == c)).getLast filled = c := by
      rw [← Option.some.injEq, ← List.getLast?_eq_some_getLast filled]
      exact final
    simp [same] at last

theorem sectionName?_eq_some_iff {line name : List Char} :
    sectionName? line = some name ↔ Names line name := by
  constructor
  · intro h
    rcases sectionName?_isSome_iff.mp (by rw [h]; rfl) with ⟨rest, rfl⟩ | ⟨rest, rfl⟩
    · have cut : dropEnd (· == ']') (trim rest) = name := by simpa [sectionName?_bracket] using h
      obtain ⟨⟨n, whole⟩, last⟩ := exists_dropEnd ']' (trim rest)
      rw [cut] at whole last
      exact .bracketed whole last
    · rw [sectionName?_heading, Option.some.injEq] at h
      exact h ▸ .heading rest
  · intro h
    cases h with
    | heading rest => exact sectionName?_heading rest
    | bracketed cut last => rw [sectionName?_bracket, cut, dropEnd_append_replicate _ last]

theorem Names.opens {line name : List Char} (h : Names line name) : Opens line :=
  sectionName?_isSome_iff.mp (by rw [sectionName?_eq_some_iff.mpr h]; rfl)

/-! ### Bodies -/

/-- The body of a section with these lines behind its marker: the ones before the next marker, without
the title lines. -/
def bodyOf (after : List (List Char)) : List Char :=
  trim (joinLines ((after.takeWhile fun line => ¬ Opens line).filter fun line => ¬ IsTitle line))

theorem Outline.preamble_ofLines (ls : List (List Char)) :
    (ofLines ls).preamble = ls.takeWhile fun line => ¬ Opens line := by
  induction ls with
  | nil => rfl
  | cons l ls ih =>
    rw [ofLines_cons]
    cases opening : sectionName? l with
    | some name =>
      have opens : Opens l := (sectionName?_eq_some_iff.mp opening).opens
      simp [addLine_opening opening, opens]
    | none =>
      have silent := sectionName?_eq_none_iff.mp opening
      simp [addLine_other silent, silent, ih]

theorem body_preamble (name : List Char) (after : List (List Char)) :
    SectionBlock.body ⟨name, (Outline.ofLines after).preamble⟩ = bodyOf after := by
  rw [SectionBlock.body, isNone_titleText?, Outline.preamble_ofLines, bodyOf]

/-! ### The sections of some lines -/

namespace Outline

theorem named_ofLines_append_cons {before after : List (List Char)} {header name : List Char}
    (names : Names header name) :
    (ofLines (before ++ header :: after)).named =
      (ofLines before).named ++ ((if name = [] then [] else
        [(String.ofList name, String.ofList (bodyOf after))]) ++ (ofLines after).named) := by
  rw [ofLines_append_cons (sectionName?_eq_some_iff.mpr names), named_append_cons, body_preamble]

theorem names_of_mem_named {ls : List (List Char)} {e : String × String}
    (h : e ∈ (ofLines ls).named) : e.1 ≠ "" ∧ ∃ line ∈ ls, Names line e.1.toList := by
  obtain ⟨b, listed, rfl⟩ := List.mem_map.mp h
  obtain ⟨block, filled⟩ := List.mem_filter.mp listed
  obtain ⟨line, member, opening⟩ := exists_sectionName_of_mem_blocks block
  refine ⟨fun empty => ?_, line, member, ?_⟩
  · simp [String.ofList_eq_empty_iff.mp empty] at filled
  · rw [String.toList_ofList]
    exact sectionName?_eq_some_iff.mp opening

theorem get?_of_isLast {ls after : List (List Char)} {key : String} {header : List Char}
    (named : key ≠ "") (last : IsLast (Names · key.toList) ls header after) :
    (SortedMap.ofList (ofLines ls).named).get? key = some (String.ofList (bodyOf after)) := by
  obtain ⟨before, rfl, names, none⟩ := last
  have filled : key.toList ≠ [] := fun empty => named (String.toList_eq_nil_iff.mp empty)
  -- No marker behind this one gives the name again.
  have later : ∀ e ∈ (ofLines after).named, e.1 ≠ key := by
    rintro e member rfl
    obtain ⟨-, line, listed, again⟩ := names_of_mem_named member
    exact none line listed again
  rw [named_ofLines_append_cons names, if_neg filled, String.ofList_toList]
  exact SortedMap.get?_ofList_append_cons _ later

theorem get?_eq_none {ls : List (List Char)} {key : String}
    (h : key = "" ∨ ∀ line ∈ ls, ¬ Names line key.toList) :
    (SortedMap.ofList (ofLines ls).named).get? key = none := by
  apply SortedMap.get?_ofList_eq_none
  rintro e member rfl
  obtain ⟨filled, line, listed, names⟩ := names_of_mem_named member
  rcases h with empty | unnamed
  · exact filled empty
  · exact unnamed line listed names

theorem get?_eq_some_iff {ls : List (List Char)} {key body : String} :
    (SortedMap.ofList (ofLines ls).named).get? key = some body ↔
      key ≠ "" ∧ ∃ header after, IsLast (Names · key.toList) ls header after ∧
        body = String.ofList (bodyOf after) := by
  constructor
  · intro found
    have some : key ≠ "" ∧ ∃ line ∈ ls, Names line key.toList := by
      by_contra none
      rw [not_and_or, not_not] at none
      rw [get?_eq_none (none.imp_right fun unnamed line listed names =>
        unnamed ⟨line, listed, names⟩)] at found
      cases found
    obtain ⟨header, after, last⟩ := exists_isLast some.2
    rw [get?_of_isLast some.1 last] at found
    exact ⟨some.1, header, after, last, (Option.some.inj found).symm⟩
  · rintro ⟨named, header, after, last, rfl⟩
    exact get?_of_isLast named last

end Outline

/-! ### Lines in no body -/

/-- No section is open behind these lines: there are none, or the last one gives no name. -/
def LeavesClosed (before : List (List Char)) : Prop :=
  before = [] ∨ ∃ ls header, before = ls ++ [header] ∧ Names header []

theorem Outline.named_unread {before ls : List (List Char)} (closed : LeavesClosed before)
    (silent : ∀ line ∈ ls, ¬ Opens line) (after : List (List Char)) :
    (ofLines (before ++ (ls ++ after))).named = (ofLines (before ++ after)).named := by
  have start : (ofLines (ls ++ after)).named = (ofLines after).named := by
    rw [ofLines_append_of_not_opens silent]
    rfl
  rcases closed with rfl | ⟨earlier, header, rfl, names⟩
  · exact start
  · rw [List.append_assoc, List.append_assoc, List.singleton_append, List.singleton_append,
      named_ofLines_append_cons names, named_ofLines_append_cons names, start]
    simp

/-- The sections of a text: the names that a marker gives, each with the lines between the last marker
that gives it and the next marker of any kind. Lines at which no section is open can be exchanged
for any others. -/
theorem get?_sections_parse (text : String) :
    (∀ key, (∃ body, (Document.parse text).sections.get? key = some body) ↔
        key ≠ "" ∧ ∃ header ∈ lines text.toList, Names header key.toList) ∧
      (∀ key body, (Document.parse text).sections.get? key = some body ↔
        key ≠ "" ∧ ∃ header after, IsLast (Names · key.toList) (lines text.toList) header after ∧
          body = String.ofList (bodyOf after)) ∧
      ∀ (other : String) (before ls ms after : List (List Char)), LeavesClosed before →
        (∀ line ∈ ls ++ ms, ¬ Opens line) → lines text.toList = before ++ (ls ++ after) →
        lines other.toList = before ++ (ms ++ after) →
        (Document.parse other).sections = (Document.parse text).sections := by
  refine ⟨fun key => ?_, fun key body => ?_, fun other before ls ms after closed silent => ?_⟩
  · rw [sections_parse]
    simp only [Outline.get?_eq_some_iff]
    constructor
    · rintro ⟨-, named, header, after, ⟨before, whole, names, -⟩, -⟩
      exact ⟨named, header, by simp [whole], names⟩
    · rintro ⟨named, some⟩
      obtain ⟨header, after, last⟩ := exists_isLast some
      exact ⟨_, named, header, after, last, rfl⟩
  · rw [sections_parse, Outline.get?_eq_some_iff]
  · intro here there
    rw [sections_parse, sections_parse, here, there,
      Outline.named_unread closed fun line listed => silent line (by simp [listed]),
      Outline.named_unread closed fun line listed => silent line (by simp [listed])]

/-- A name that comes twice, one in two brackets, and a section without a name, whose line is
exchanged. -/
theorem get?_sections_parse_mixed :
    LeavesClosed ["## A".toList, "x".toList, "[]".toList] ∧
      (∀ line ∈ ["lost".toList] ++ ["other".toList, "# t".toList], ¬ Opens line) ∧
      (Document.parse "## A\nx\n[]\nlost\n[B]]\n# t\n- y\n## A\nz").sections.get? "A" = some "z" ∧
      (Document.parse "## A\nx\n[]\nlost\n[B]]\n# t\n- y\n## A\nz").sections.get? "B" =
        some "- y" ∧
      (Document.parse "## A\nx\n[]\nother\n# t\n[B]]\n# t\n- y\n## A\nz").sections =
        (Document.parse "## A\nx\n[]\nlost\n[B]]\n# t\n- y\n## A\nz").sections := by
  have closed : LeavesClosed ["## A".toList, "x".toList, "[]".toList] :=
    .inr ⟨["## A".toList, "x".toList], "[]".toList, rfl, sectionName?_eq_some_iff.mp (by decide)⟩
  have silent : ∀ line ∈ ["lost".toList] ++ ["other".toList, "# t".toList], ¬ Opens line := by decide
  obtain ⟨-, body, unread⟩ :=
    get?_sections_parse "## A\nx\n[]\nlost\n[B]]\n# t\n- y\n## A\nz"
  refine ⟨closed, silent, (body _ _).mpr ?_, (body _ _).mpr ?_, ?_⟩
  · refine ⟨by decide, "## A".toList, ["z".toList], ⟨["## A".toList, "x".toList, "[]".toList,
      "lost".toList, "[B]]".toList, "# t".toList, "- y".toList], by decide +kernel, ?_, ?_⟩,
      by decide +kernel⟩
    · exact sectionName?_eq_some_iff.mp (by decide)
    · simp only [← sectionName?_eq_some_iff]
      decide
  · refine ⟨by decide, "[B]]".toList, ["# t".toList, "- y".toList, "## A".toList, "z".toList],
      ⟨["## A".toList, "x".toList, "[]".toList, "lost".toList], by decide +kernel, ?_, ?_⟩,
      by decide +kernel⟩
    · exact sectionName?_eq_some_iff.mp (by decide)
    · simp only [← sectionName?_eq_some_iff]
      decide
  · exact unread _ _ _ _ ["[B]]".toList, "# t".toList, "- y".toList, "## A".toList, "z".toList]
      closed silent (by decide +kernel) (by decide +kernel)

end SpecPrompt
