import SpecPrompt.Document.Metadata

/-!
# Reading and writing documents

Every text is a document: lines of no known shape are skipped. The sections can be written back as
text.
-/

namespace SpecPrompt.Document

/-- The document with a given outline. A field stated in the preamble hides a listed one. -/
def ofOutline (o : Outline) : Document where
  metadata := (bulletFields o.sections).insertAll o.preambleFields.toList
  sections := o.sections

/-- The document that `text` writes down. -/
def parse (text : String) : Document :=
  ofOutline (.ofLines (Chars.lines text.toList))

/-- One section as text, with a line feed at its end. -/
def sectionText (title body : String) : List Char :=
  "## ".toList ++ title.toList ++ ['\n'] ++
    if body.isEmpty then [] else body.toList ++ ['\n']

/-- The sections as text, one empty line between any two. -/
def sectionsToText (d : Document) : String :=
  String.ofList (Chars.joinLines (d.sections.toList.map fun (title, body) =>
    sectionText title body))

end SpecPrompt.Document
