import SpecPrompt.Text.CaseData

/-!
# Upper and lower case

Full case mapping, character by character. One mapping looks at its neighbours: a capital sigma
that ends a word becomes `ς`, any other becomes `σ`.
-/

namespace SpecPrompt

namespace CaseData

/-- The code point that `runs`, in ascending order, maps `n` to; `n` itself if none covers it. -/
def shiftIn (runs : List Run) (n : Nat) : Nat :=
  match runs.find? fun r => n ≤ r.last with
  | some r => if r.first ≤ n ∧ (n - r.first) % r.step = 0 then (n + r.shift).toNat else n
  | none => n

/-- The code points that the case form of `n` consists of. -/
def mapped (runs : List Run) (expansions : List (Nat × List Nat)) (n : Nat) : List Nat :=
  match expansions.find? fun entry => n ≤ entry.1 with
  | some (m, form) => if m = n then form else [shiftIn runs n]
  | none => [shiftIn runs n]

end CaseData

namespace Chars

/-- The uppercase form of one character. -/
def upperForm (c : Char) : List Char :=
  (CaseData.mapped CaseData.upperRuns CaseData.upperExpansions c.toNat).map Char.ofNat

/-- The lowercase form of one character, regardless of its neighbours. -/
def lowerForm (c : Char) : List Char :=
  (CaseData.mapped CaseData.lowerRuns CaseData.lowerExpansions c.toNat).map Char.ofNat

/-- Whether the first character of `cs` that is not case-ignorable is a cased one. -/
def startsCased (cs : List Char) : Bool :=
  match cs.find? fun c => !CaseData.caseIgnorable.covers c with
  | some c => CaseData.cased.covers c
  | none => false

/-- The lowercase form of a capital sigma, given what stands before it (nearest first) and after. -/
def lowerSigma (before after : List Char) : Char :=
  if startsCased before && !startsCased after then 'ς' else 'σ'

/-- `cs` in upper case. -/
def upper (cs : List Char) : List Char :=
  cs.flatMap upperForm

/-- `cs` in lower case. -/
def lower (cs : List Char) : List Char :=
  go [] [] cs
where
  go (before : List Char) (forms : List (List Char)) : List Char → List Char
    | [] => forms.reverse.flatten
    | c :: cs =>
      let form := if c = 'Σ' then [lowerSigma before cs] else lowerForm c
      go (c :: before) (form :: forms) cs

end Chars

namespace Text

/-- `s` in upper case. -/
def upper (s : String) : String :=
  String.ofList (Chars.upper s.toList)

/-- `s` in lower case. -/
def lower (s : String) : String :=
  String.ofList (Chars.lower s.toList)

end Text

end SpecPrompt
