import SpecPrompt.Proofs.Document.Sources

/-!
# Line endings

A document does not depend on how the lines of its text end. A carriage return that belongs to a line
ending is no part of the line. One that the last line keeps, because nothing ends that line, is trimmed
wherever the line is read: in a title, a name, a value and a body. An empty last line is read nowhere,
because it opens nothing, states nothing, and is blank at the end of a body.

## Main result

`parse_lineEndings`: carriage returns in front of line feeds, and a line feed at the end, make no
difference.
-/

namespace SpecPrompt

open Chars

/-! ### Carriage returns before line feeds -/

namespace Chars

/-- The second text is the first one with carriage returns put before some of its line feeds. -/
inductive AddsReturns : List Char → List Char → Prop
  | nil : AddsReturns [] []
  | keep (c : Char) {cs ds : List Char} : AddsReturns cs ds → AddsReturns (c :: cs) (c :: ds)
  | add {cs ds : List Char} : AddsReturns cs ds → AddsReturns ('\n' :: cs) ('\r' :: '\n' :: ds)

theorem lines_of_addsReturns {cs ds : List Char} (h : AddsReturns cs ds)
    (plain : ¬ "\r\n".toList <:+: cs) : lines ds = lines cs := by
  -- The start of the line that is being read stands before both texts.
  have behind : ∀ line, '\n' ∉ line → ¬ "\r\n".toList <:+: line ++ cs →
      lines (line ++ ds) = lines (line ++ cs) := by
    clear plain
    induction h with
    | nil => exact fun _ _ _ => rfl
    | @keep c cs ds _ ih =>
      intro line oneLine plain
      by_cases ends : c = '\n'
      · subst ends
        have rest : ¬ "\r\n".toList <:+: cs := fun inside =>
          plain (inside.trans ((List.suffix_cons _ cs).trans (List.suffix_append line _)).isInfix)
        rw [lines_cons_newline oneLine, lines_cons_newline oneLine]
        exact congrArg _ (ih [] (by simp) rest)
      · have longer : '\n' ∉ line ++ [c] := by
          simp [oneLine, Ne.symm ends]
        simpa using ih (line ++ [c]) longer (by simpa using plain)
    | @add cs ds _ ih =>
      intro line oneLine plain
      have rest : ¬ "\r\n".toList <:+: cs := fun inside =>
        plain (inside.trans ((List.suffix_cons _ cs).trans (List.suffix_append line _)).isInfix)
      have unreturned : line.getLast? ≠ some '\r' := by
        intro last
        obtain ⟨start, rfl⟩ := List.getLast?_eq_some_iff.mp last
        exact plain ⟨start, cs, by simp⟩
      have longer : '\n' ∉ line ++ ['\r'] := by simpa using oneLine
      have added : lines (line ++ '\r' :: '\n' :: ds) = line :: lines ds := by
        simpa [dropReturn_append_return] using lines_cons_newline longer ds
      rw [added, lines_cons_newline oneLine, dropReturn_eq_self unreturned]
      exact congrArg _ (ih [] (by simp) rest)
  simpa using behind [] (by simp) (by simpa using plain)

/-- A line feed at the end of a text ends the last line, or adds an empty one. -/
theorem lines_append_singleton_newline (cs : List Char) :
    (∃ ls last, lines cs = ls ++ [last] ∧ lines (cs ++ ['\n']) = ls ++ [dropReturn last]) ∨
      lines (cs ++ ['\n']) = lines cs ++ [[]] := by
  obtain ⟨ls, last, pieces, whole⟩ := exists_lines_eq cs
  have ended : lines (cs ++ ['\n']) = ls.map dropReturn ++ [dropReturn last] := by
    rw [lines_append_newline, lines_nil, pieces]
    simp
  by_cases empty : last = []
  · right
    rw [ended, whole, if_pos empty, empty]
    simp [dropReturn]
  · left
    exact ⟨_, last, by rw [whole, if_neg empty], ended⟩

end Chars

/-! ### A carriage return at the end of a line -/

theorem sectionName?_dropReturn (line : List Char) :
    sectionName? (dropReturn line) = sectionName? line := by
  by_cases opens : Opens line
  · rcases opens with ⟨rest, rfl⟩ | ⟨rest, rfl⟩
    · rw [dropReturn_append (by decide)]
      show sectionName? ('[' :: dropReturn rest) = sectionName? ('[' :: rest)
      rw [sectionName?_bracket, sectionName?_bracket, trim_dropReturn]
    · rw [dropReturn_append (by decide), sectionName?_heading, sectionName?_heading, trim_dropReturn]
  · rw [sectionName?_eq_none_iff.mpr opens, sectionName?_eq_none_iff]
    exact fun kept => opens (opens_dropReturn_iff.mp kept)

theorem counts_append_return {line before after : List Char} :
    Counts (line ++ ['\r']) before after ↔ ∃ rest, after = rest ++ ['\r'] ∧ Counts line before rest := by
  constructor
  · rintro ⟨start, cut, first, filled⟩
    -- The colon is not the last character, so the carriage return is the end of the value.
    rcases List.eq_nil_or_concat after with rfl | ⟨rest, c, rfl⟩
    · have := congrArg List.getLast? cut
      simp at this
    · rw [List.concat_eq_append] at cut ⊢
      have whole : line ++ ['\r'] = (before ++ ':' :: rest) ++ [c] := by simpa using cut
      obtain ⟨rfl, last⟩ := List.append_inj' whole rfl
      obtain rfl : '\r' = c := by simpa using last
      refine ⟨rest, rfl, ?_, rfl, first, filled⟩
      rwa [List.head?_append_of_ne_nil _ (by simp)] at start
  · rintro ⟨rest, rfl, start, rfl, first, filled⟩
    refine ⟨?_, by simp, first, filled⟩
    rwa [List.head?_append_of_ne_nil _ (by simp)]

theorem trim_append_return (cs : List Char) : trim (cs ++ ['\r']) = trim cs := by
  rw [← trim_dropReturn, dropReturn_append_return]

theorem statedPair?_dropReturn (line : List Char) :
    statedPair? (dropReturn line) = statedPair? line := by
  rcases dropReturn_cases line with same | cut
  · rw [same]
  · rw [cut, dropReturn_append_return]
    ext ⟨label, value⟩
    simp only [statedPair?_eq_some_iff, counts_append_return]
    constructor
    · rintro ⟨before, after, counts, rfl, rfl⟩
      exact ⟨before, _, ⟨after, rfl, counts⟩, rfl, (trim_append_return after).symm⟩
    · rintro ⟨before, _, ⟨after, rfl, counts⟩, rfl, rfl⟩
      exact ⟨before, after, counts, rfl, trim_append_return after⟩

/-! ### The last line of a body -/

theorem trim_joinLines_append (ls : List (List Char)) (line : List Char) :
    trim (joinLines (ls ++ [line])) = trim (endLines ls ++ line) := by
  have ended : endLines (ls ++ [line]) = endLines ls ++ line ++ ['\n'] := by
    simp [endLines]
  rw [trim_joinLines, ended, trim_append_blanks (allBlank_singleton rfl)]

/-! ### The end of a text -/

/-- Two ends of a text that are read alike: a last line with and without its carriage return, and an empty
line and none. -/
inductive SameEnd : List (List Char) → List (List Char) → Prop
  | last (line : List Char) : SameEnd [line] [dropReturn line]
  | blank : SameEnd [[]] []

namespace SameEnd

variable {ms ns : List (List Char)}

theorem opens (h : SameEnd ms ns) (silent : ∀ line ∈ ms, ¬ Opens line) :
    ∀ line ∈ ns, ¬ Opens line := by
  cases h with
  | last line => simpa [opens_dropReturn_iff] using silent
  | blank => simp

theorem filterMap_statedPair? {α : Type} (h : SameEnd ms ns) (f : List Char × List Char → α) :
    (ms.filterMap fun line => (statedPair? line).map f) =
      ns.filterMap fun line => (statedPair? line).map f := by
  cases h with
  | last line => simp [List.filterMap_cons, statedPair?_dropReturn]
  | blank => rfl

theorem body (h : SameEnd ms ns) (name : List Char) (ls : List (List Char)) :
    SectionBlock.body ⟨name, ls ++ ms⟩ = SectionBlock.body ⟨name, ls ++ ns⟩ := by
  simp only [SectionBlock.body, isNone_titleText?, List.filter_append]
  cases h with
  | last line =>
    by_cases title : IsTitle line
    · simp [title, isTitle_dropReturn_iff]
    · simp only [List.filter_singleton, isTitle_dropReturn_iff, title, not_false_eq_true, decide_true,
        cond_true, trim_joinLines_append]
      rcases dropReturn_cases line with same | cut
      · rw [same]
      · conv => lhs; rw [cut, ← List.append_assoc, trim_append_return]
  | blank =>
    have kept : [[]].filter (fun line => decide (¬ IsTitle line)) = [[]] := rfl
    rw [kept, trim_joinLines_append, List.filter_nil, List.append_nil, List.append_nil, trim_joinLines]

theorem statedFields (h : SameEnd ms ns) (ls : List (List Char)) (blocks : List SectionBlock) :
    Outline.statedFields ⟨ls ++ ms, blocks⟩ = Outline.statedFields ⟨ls ++ ns, blocks⟩ := by
  simp only [Outline.statedFields, Outline.titleAndLines]
  cases ls with
  | cons first rest =>
    simp only [List.cons_append]
    cases titleText? first <;> simp [List.filterMap_append, List.filterMap_cons, h.filterMap_statedPair?]
  | nil =>
    cases h with
    | last line =>
      have title : (titleText? (dropReturn line)).isNone = (titleText? line).isNone := by
        rw [Bool.eq_iff_iff, titleText?_isNone_iff, titleText?_isNone_iff, isTitle_dropReturn_iff]
      simp only [List.nil_append]
      cases here : titleText? line <;> cases there : titleText? (dropReturn line) <;>
        simp_all [List.filterMap_cons, statedPair?_dropReturn]
    | blank => rfl

end SameEnd

theorem ofOutline_eq {o p : Outline} (fields : o.preambleFields = p.preambleFields)
    (named : o.named = p.named) : Document.ofOutline o = Document.ofOutline p := by
  have sections : o.sections = p.sections := congrArg SortedMap.ofList named
  rw [Document.ofOutline, Document.ofOutline, fields, sections]

/-- Without a section a title names nothing. -/
theorem preambleFields_of_no_blocks (ls : List (List Char)) :
    Outline.preambleFields ⟨ls, []⟩ = .ofList (Outline.statedFields ⟨ls, []⟩) := by
  rw [Outline.preambleFields]
  split <;> simp

namespace SameEnd

variable {ms ns : List (List Char)}

theorem ofOutline_unopened (h : SameEnd ms ns) (silent : ∀ line ∈ ms, ¬ Opens line)
    {ls : List (List Char)} (unopened : ∀ line ∈ ls, ¬ Opens line) :
    Document.ofOutline (.ofLines (ls ++ ms)) = Document.ofOutline (.ofLines (ls ++ ns)) := by
  have alone : ∀ {ending}, (∀ line ∈ ending, ¬ Opens line) →
      Outline.ofLines (ls ++ ending) = ⟨ls ++ ending, []⟩ := by
    intro ending silent
    apply Outline.ofLines_of_not_opens
    simpa [or_imp, forall_and] using ⟨unopened, silent⟩
  rw [alone silent, alone (h.opens silent)]
  refine ofOutline_eq ?_ rfl
  rw [preambleFields_of_no_blocks, preambleFields_of_no_blocks, h.statedFields]

/-- The end of a text belongs to the section opened last. -/
theorem ofOutline_opened (h : SameEnd ms ns) (silent : ∀ line ∈ ms, ¬ Opens line)
    {ls after : List (List Char)} {header : List Char} (last : IsLast Opens ls header after) :
    Document.ofOutline (.ofLines (ls ++ ms)) = Document.ofOutline (.ofLines (ls ++ ns)) := by
  obtain ⟨before, rfl, opens, closed⟩ := last
  obtain ⟨name, opening⟩ := Option.isSome_iff_exists.mp (sectionName?_isSome_iff.mpr opens)
  have whole : ∀ {ending}, (∀ line ∈ ending, ¬ Opens line) →
      Outline.ofLines ((before ++ header :: after) ++ ending) =
        ⟨(Outline.ofLines before).preamble,
          (Outline.ofLines before).blocks ++ [⟨name, after ++ ending⟩]⟩ := by
    intro ending silent
    have alone : Outline.ofLines (after ++ ending) = ⟨after ++ ending, []⟩ := by
      apply Outline.ofLines_of_not_opens
      simpa [or_imp, forall_and] using ⟨closed, silent⟩
    rw [List.append_assoc, List.cons_append, Outline.ofLines_append_cons opening, alone]
  rw [whole silent, whole (h.opens silent)]
  refine ofOutline_eq ?_ ?_
  · simp [Outline.preambleFields, Outline.titleAndLines, Outline.statedFields]
  · have last : ∀ ending, Outline.named ⟨(Outline.ofLines before).preamble,
        (Outline.ofLines before).blocks ++ [⟨name, after ++ ending⟩]⟩ = _ :=
      fun ending => Outline.named_append_cons _ (Outline.ofLines before) ⟨[], []⟩ ⟨name, after ++ ending⟩
    rw [last, last, h.body name after]

theorem ofOutline_append (h : SameEnd ms ns) (ls : List (List Char)) :
    Document.ofOutline (.ofLines (ls ++ ms)) = Document.ofOutline (.ofLines (ls ++ ns)) := by
  by_cases silent : ∀ line ∈ ms, ¬ Opens line
  · by_cases opened : ∃ line ∈ ls, Opens line
    · obtain ⟨header, after, last⟩ := exists_isLast opened
      exact h.ofOutline_opened silent last
    · exact h.ofOutline_unopened silent fun line listed opens => opened ⟨line, listed, opens⟩
  · cases h with
    | blank => exact absurd (by decide) silent
    -- A line that opens a section opens the same one without its carriage return.
    | last line =>
      have same : Outline.ofLines [line] = Outline.ofLines [dropReturn line] := by
        have opens : Opens line := by simpa using silent
        obtain ⟨name, opening⟩ := Option.isSome_iff_exists.mp (sectionName?_isSome_iff.mpr opens)
        rw [Outline.ofLines_cons, Outline.ofLines_cons, Outline.addLine_opening opening,
          Outline.addLine_opening (by rw [sectionName?_dropReturn, opening])]
      simp only [Outline.ofLines, List.foldr_append] at same ⊢
      rw [same]

end SameEnd

/-- A document does not depend on how its lines end: if no line feed follows a carriage return, one can be
put before any of them, and to every text a line feed can be added. -/
theorem parse_lineEndings :
    (∀ text other : String, ¬ "\r\n".toList <:+: text.toList →
        AddsReturns text.toList other.toList → Document.parse other = Document.parse text) ∧
      ∀ text : String, Document.parse (text ++ "\n") = Document.parse text := by
  constructor
  · intro text other plain adds
    rw [Document.parse, Document.parse, lines_of_addsReturns adds plain]
  · intro text
    have whole : (text ++ "\n").toList = text.toList ++ ['\n'] := by simp
    rw [Document.parse, Document.parse, whole]
    rcases lines_append_singleton_newline text.toList with ⟨ls, last, here, there⟩ | there
    · rw [here, there, (SameEnd.last last).ofOutline_append]
    · have := SameEnd.blank.ofOutline_append (lines text.toList)
      rw [there, this, List.append_nil]

/-- One of three line feeds with a carriage return, in a text that ends in one. -/
theorem parse_lineEndings_mixed :
    (¬ "\r\n".toList <:+: "# T\nA: b\n## S\nx\r".toList ∧
        AddsReturns "# T\nA: b\n## S\nx\r".toList "# T\nA: b\r\n## S\nx\r".toList) ∧
      Document.parse "# T\nA: b\r\n## S\nx\r" = Document.parse "# T\nA: b\n## S\nx\r" ∧
      Document.parse ("# T\nA: b\n## S\nx\r" ++ "\n") = Document.parse "# T\nA: b\n## S\nx\r" := by
  have plain : ¬ "\r\n".toList <:+: "# T\nA: b\n## S\nx\r".toList := by decide
  have rest : ∀ cs, AddsReturns cs cs := by
    intro cs
    induction cs with
    | nil => exact .nil
    | cons c cs ih => exact .keep c ih
  have adds : AddsReturns "# T\nA: b\n## S\nx\r".toList "# T\nA: b\r\n## S\nx\r".toList :=
    .keep _ <| .keep _ <| .keep _ <| .keep _ <| .keep _ <| .keep _ <| .keep _ <| .keep _ <|
      .add (rest _)
  exact ⟨⟨plain, adds⟩, parse_lineEndings.1 _ _ plain adds, parse_lineEndings.2 _⟩

end SpecPrompt
