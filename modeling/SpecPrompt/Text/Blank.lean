/-!
# Blank characters

A character is blank when it has the Unicode property `White_Space`. Trimming takes the blanks off
the ends of a text and keeps the ones inside.
-/

namespace SpecPrompt

/-- The characters with the property `White_Space`. -/
def isBlank (c : Char) : Bool :=
  let n := c.toNat
  n == 0x20 || (0x9 ≤ n && n ≤ 0xD) || n == 0x85 || n == 0xA0 || n == 0x1680 ||
    (0x2000 ≤ n && n ≤ 0x200A) || n == 0x2028 || n == 0x2029 || n == 0x202F || n == 0x205F ||
    n == 0x3000

namespace Chars

/-- `cs` without the characters satisfying `p` at its start. -/
def dropStart (p : Char → Bool) (cs : List Char) : List Char :=
  cs.dropWhile p

/-- `cs` without the characters satisfying `p` at its end. -/
def dropEnd (p : Char → Bool) (cs : List Char) : List Char :=
  (cs.reverse.dropWhile p).reverse

/-- `cs` without the blanks at its start. -/
def trimStart (cs : List Char) : List Char :=
  dropStart isBlank cs

/-- `cs` without the blanks at its end. -/
def trimEnd (cs : List Char) : List Char :=
  dropEnd isBlank cs

/-- `cs` without the blanks at its ends. -/
def trim (cs : List Char) : List Char :=
  trimEnd (trimStart cs)

end Chars

namespace Text

/-- `s` without the blanks at its ends. -/
def trim (s : String) : String :=
  String.ofList (Chars.trim s.toList)

/-- `s` without the blanks at its end. -/
def trimEnd (s : String) : String :=
  String.ofList (Chars.trimEnd s.toList)

/-- Whether `s` holds nothing but blanks. -/
def isBlank (s : String) : Bool :=
  s.toList.all SpecPrompt.isBlank

end Text

end SpecPrompt
