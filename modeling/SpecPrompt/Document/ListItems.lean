import SpecPrompt.Document.Basic
import SpecPrompt.Text.Blank
import SpecPrompt.Text.Lines

/-!
# List items

The lines of a body that start with `- ` are its list items. Every other line, an indented item
too, is skipped.
-/

namespace SpecPrompt

/-- The item in a line that holds one. -/
def listItem? (line : List Char) : Option (List Char) :=
  ("- ".toList.isPrefixOf? line).map Chars.trim

/-- The items of `body` in order. -/
def listItems (body : String) : List String :=
  (Chars.lines body.toList).filterMap fun line => (listItem? line).map String.ofList

/-- A position between the items of a body. -/
structure ItemCursor where
  /-- The lines not read yet. -/
  rest : List (List Char)

namespace ItemCursor

/-- The cursor before the first item of `body`. -/
def ofBody (body : String) : ItemCursor :=
  ⟨Chars.lines body.toList⟩

/-- The items not read yet. -/
def toList (c : ItemCursor) : List String :=
  c.rest.filterMap fun line => (listItem? line).map String.ofList

/-- The number of items not read yet. -/
def count (c : ItemCursor) : Nat :=
  c.toList.length

/-- The next item and the cursor after it. -/
def next? (c : ItemCursor) : Option (String × ItemCursor) :=
  match c.rest.dropWhile fun line => (listItem? line).isNone with
  | [] => none
  | line :: rest => (listItem? line).map fun item => (String.ofList item, ⟨rest⟩)

end ItemCursor

/-- The items of the section `title`, none if there is no such section. -/
def Document.itemsOf (d : Document) (title : String) : List String :=
  listItems ((d.section? title).getD "")

end SpecPrompt
