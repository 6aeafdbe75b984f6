import SpecPrompt.SortedMap
import SpecPrompt.Text.Blank
import SpecPrompt.Text.Lines

/-!
# Outlines

A line starting with `[` or with `## ` opens a section and names it. The lines before the first
such line are the preamble; each of the others belongs to the section opened last. A section whose
name is empty is left out, and of two sections with one name the later counts.
-/

namespace SpecPrompt

/-- The name in a line that opens a section, blanks around it removed, and for a bracketed one also
the brackets after it. -/
def sectionName? (line : List Char) : Option (List Char) :=
  match line with
  | '[' :: rest => some (Chars.dropEnd (· == ']') (Chars.trim rest))
  | _ => ("## ".toList.isPrefixOf? line).map Chars.trim

/-- The text of a title line. -/
def titleText? (line : List Char) : Option (List Char) :=
  ("# ".toList.isPrefixOf? line).map Chars.trim

/-- A section's name with the lines up to the next section. -/
structure SectionBlock where
  name : List Char
  lines : List (List Char)

/-- The body of a section: its lines without the title lines among them, trimmed as a whole. -/
def SectionBlock.body (b : SectionBlock) : List Char :=
  Chars.trim (Chars.joinLines (b.lines.filter fun line => (titleText? line).isNone))

/-- The lines of a document, cut at the lines that open sections. -/
@[ext]
structure Outline where
  preamble : List (List Char)
  blocks : List SectionBlock

namespace Outline

/-- The outline with `line` put before it. -/
def addLine (line : List Char) (o : Outline) : Outline :=
  match sectionName? line with
  | some name => ⟨[], ⟨name, o.preamble⟩ :: o.blocks⟩
  | none => ⟨line :: o.preamble, o.blocks⟩

/-- The outline of a document's lines. -/
def ofLines (lines : List (List Char)) : Outline :=
  lines.foldr addLine ⟨[], []⟩

/-- The named sections. -/
def sections (o : Outline) : SortedMap String String :=
  .ofList ((o.blocks.filter fun b => !b.name.isEmpty).map fun b =>
    (String.ofList b.name, String.ofList b.body))

end Outline

end SpecPrompt
