/-!
# Lines

A line feed ends a line, and a carriage return directly before that line feed belongs to the line
ending. A carriage return anywhere else, also at the end of a text without a final line feed, is an
ordinary character of its line. The text after the last line feed is a line unless it is empty.
-/

namespace SpecPrompt.Chars

/-- `cs` without a carriage return at its end. -/
def dropReturn (cs : List Char) : List Char :=
  if cs.getLast? = some '\r' then cs.dropLast else cs

/-- The lines of `cs`, without their endings. -/
def lines (cs : List Char) : List (List Char) :=
  let pieces := cs.splitOn '\n'
  let unfinished := match pieces.getLastD [] with
    | [] => []
    | last => [last]
  pieces.dropLast.map dropReturn ++ unfinished

/-- The lines of `ls` written with a line feed between any two. -/
def joinLines (ls : List (List Char)) : List Char :=
  ['\n'].intercalate ls

end SpecPrompt.Chars
