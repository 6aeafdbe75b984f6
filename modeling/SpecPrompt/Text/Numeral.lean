/-!
# Numerals

Natural numbers in decimal digits, in the one spelling that each of them has.
-/

namespace SpecPrompt.Chars

/-- The number that decimal digits write down. -/
def ofDigits (digits : List Char) : Nat :=
  digits.foldl (fun n d => 10 * n + (d.toNat - '0'.toNat)) 0

/-- The natural number that `cs` writes down: digits alone, no zero before another digit. -/
def natural? (cs : List Char) : Option Nat :=
  if cs.isEmpty || !cs.all Char.isDigit || (cs.head? = some '0' && cs.length ≠ 1) then none
  else some (ofDigits cs)

end SpecPrompt.Chars
