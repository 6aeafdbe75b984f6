import SpecPrompt.SortedMap
import SpecPrompt.Text.Accent
import SpecPrompt.Text.Case

/-!
# Documents

A document has metadata fields and titled sections. Fields and sections are looked up leniently: a
field also under the label that a list of fields gives it, a section also under its title in upper
case, with or without accents.
-/

namespace SpecPrompt

/-- The value of a metadata field. -/
inductive FieldValue where
  | text (value : String)
  | list (items : List String)
  deriving DecidableEq, Repr

namespace FieldValue

/-- The text of a field that holds text. -/
def text? : FieldValue → Option String
  | .text value => some value
  | .list _ => none

/-- The items of a field that holds a list. -/
def list? : FieldValue → Option (List String)
  | .text _ => none
  | .list items => some items

end FieldValue

/-- Metadata by key and section bodies by title. -/
structure Document where
  metadata : SortedMap String FieldValue
  sections : SortedMap String String
  deriving DecidableEq, Inhabited

/-- The spellings under which a section title is looked up: as written, in upper case, and in upper
case without accents. -/
def titleVariants (title : String) : List String :=
  let upper := Text.upper title
  [title, upper, Text.stripAccents upper].eraseDups

namespace Document

/-- The label that stands for a metadata key in a list of fields. -/
def bulletLabels : List (String × String) :=
  [("nome", "Nome"), ("versao", "Versão"), ("autor", "Autor"), ("tipo", "Tipo"), ("data", "Data"),
   ("dominio", "Domínio"), ("descricao", "Descrição"), ("linguagem", "Linguagem")]

/-- Whether the document has neither metadata nor sections. -/
def isEmpty (d : Document) : Bool :=
  d.metadata.isEmpty && d.sections.isEmpty

/-- The value stored under `key`, or else under its label. -/
def fieldValue? (d : Document) (key : String) : Option FieldValue :=
  (d.metadata.get? key).or ((bulletLabels.lookup key).bind d.metadata.get?)

/-- The text of the field `key`. A list found there hides a text under the label. -/
def field? (d : Document) (key : String) : Option String :=
  (d.fieldValue? key).bind FieldValue.text?

/-- The tags, none if the document does not list them. -/
def tags (d : Document) : List String :=
  ((d.metadata.get? "tags").bind FieldValue.list?).getD []

/-- The body of the first section in `sections` whose title is a spelling of `title`. -/
def sectionIn? (sections : SortedMap String String) (title : String) : Option String :=
  (titleVariants title).findSome? sections.get?

/-- The body of the section `title`. -/
def section? (d : Document) (title : String) : Option String :=
  sectionIn? d.sections title

end Document

end SpecPrompt
