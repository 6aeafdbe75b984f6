/-!
# Stretches of characters

A set of characters given by stretches of consecutive code points.
-/

namespace SpecPrompt

/-- Stretches of code points, in ascending order, each by its first and its last one. -/
abbrev Stretches := List (Nat × Nat)

/-- Whether `c` lies in one of the stretches. -/
def Stretches.covers (stretches : Stretches) (c : Char) : Bool :=
  match stretches.find? fun s => c.toNat ≤ s.2 with
  | some s => s.1 ≤ c.toNat
  | none => false

end SpecPrompt
