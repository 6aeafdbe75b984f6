import SpecPrompt.Text.Numeral

/-!
# Template values

The values that a template computes with, and their text.
-/

namespace SpecPrompt.Template

/-- A value in a template. -/
inductive Value where
  | null
  | bool (b : Bool)
  | number (n : Int)
  | text (s : String)
  | list (items : List Value)
  | record (fields : List (String × Value))
  deriving BEq, Inhabited

namespace Value

mutual

/-- The text that a value is printed as. Nothing is escaped; a record shows only that it is one. -/
def display : Value → String
  | null => ""
  | bool b => if b then "true" else "false"
  | number n => toString n
  | text s => s
  | list items => "[" ++ ", ".intercalate (displayEach items) ++ "]"
  | record _ => "[object]"

/-- The texts of some values. -/
def displayEach : List Value → List String
  | [] => []
  | v :: vs => v.display :: displayEach vs

end

/-- A character of a quoted text. -/
def quotedChar (c : Char) : List Char :=
  match c with
  | '"' => ['\\', '"']
  | '\\' => ['\\', '\\']
  | '\n' => ['\\', 'n']
  | '\r' => ['\\', 'r']
  | '\t' => ['\\', 't']
  | c =>
    if c.toNat = 8 then ['\\', 'b']
    else if c.toNat = 12 then ['\\', 'f']
    else if c.toNat < 32 then
      ['\\', 'u', '0', '0', (c.toNat / 16).digitChar, (c.toNat % 16).digitChar]
    else [c]

/-- A text in double quotes. -/
def quoted (s : String) : String :=
  "\"" ++ String.ofList (s.toList.flatMap quotedChar) ++ "\""

mutual

/-- The spelling of a value in error messages. -/
def spelling : Value → String
  | null => "null"
  | bool b => if b then "true" else "false"
  | number n => toString n
  | text s => quoted s
  | list items => "[" ++ ",".intercalate (spellingEach items) ++ "]"
  | record fields => "\x7b" ++ ",".intercalate (spellingFields fields) ++ "\x7d"

/-- The spellings of some values. -/
def spellingEach : List Value → List String
  | [] => []
  | v :: vs => v.spelling :: spellingEach vs

/-- The spellings of the fields of a record. -/
def spellingFields : List (String × Value) → List String
  | [] => []
  | (name, v) :: fields => (quoted name ++ ":" ++ v.spelling) :: spellingFields fields

end

/-- Whether a value counts as true: it is neither null, false, zero nor empty. -/
def isTruthy : Value → Bool
  | null => false
  | bool b => b
  | number n => n != 0
  | text s => !s.isEmpty
  | list items => !items.isEmpty
  | record fields => !fields.isEmpty

/-! ### Comparing -/

/-- The number with at most 53 binary digits before its trailing zeros that is nearest to `n`.
Halfway between two of them, the one whose last digit is even. -/
def significant (n : Nat) : Nat :=
  if n < 1 <<< 53 then n
  else
    let unit := 1 <<< (n.log2 - 52)
    let whole := n / unit
    let part := n % unit
    let rounded :=
      if 2 * part < unit then whole
      else if unit < 2 * part then whole + 1
      else whole + whole % 2
    rounded * unit

/-- Whether two integers agree in their sign and their significant digits. -/
def sameNumber (m n : Int) : Bool :=
  m.sign == n.sign && significant m.natAbs == significant n.natAbs

/-- How a value compares with another. -/
inductive Likeness where
  | same
  | different
  /-- One of the values is a number, the other is none. -/
  | unrelated
  deriving DecidableEq, Repr

/-- How two values compare. -/
def likeness (a b : Value) : Likeness :=
  match a, b with
  | number m, number n => if sameNumber m n then .same else .different
  | number _, _ | _, number _ => .unrelated
  | a, b => if a == b then .same else .different

/-! ### Parts of values -/

/-- The part of a value under one segment of a path. -/
def part? (v : Value) (segment : String) : Option Value :=
  match v with
  | record fields => fields.lookup segment
  | list items => (Chars.natural? segment.toList).bind (items[·]?)
  | _ => none

/-- The part of a value that a path leads to. -/
def at? (v : Value) (path : List String) : Option Value :=
  path.foldlM part? v

end Value

end SpecPrompt.Template
