/-!
# Cutting texts at separators
-/

namespace SpecPrompt.Chars

/-- The parts before and after the first occurrence of `sep` in `cs`. -/
def splitOnce (sep cs : List Char) : Option (List Char × List Char) :=
  search [] cs
where
  search (before : List Char) : List Char → Option (List Char × List Char)
    | [] => (sep.isPrefixOf? []).map fun rest => (before.reverse, rest)
    | c :: cs =>
      match sep.isPrefixOf? (c :: cs) with
      | some rest => some (before.reverse, rest)
      | none => search (c :: before) cs

/-- Whether `part` occurs in `cs`. -/
def hasPart (part cs : List Char) : Bool :=
  (splitOnce part cs).isSome

end SpecPrompt.Chars

namespace SpecPrompt.Text

/-- Whether `part` occurs in `s`. -/
def hasPart (part s : String) : Bool :=
  Chars.hasPart part.toList s.toList

/-- `s` with every occurrence of the character `old` replaced by `new`. -/
def replaceChar (old new : Char) (s : String) : String :=
  String.ofList (s.toList.map fun c => if c = old then new else c)

end SpecPrompt.Text
