import SpecPrompt.Category
import SpecPrompt.Document.ListItems
import SpecPrompt.Template.Value

/-!
# The variables of a prompt

A template sees a document through the variable `ctx`: its fields with their defaults, and its
sections as the category asks for them.
-/

namespace SpecPrompt

/-- The name under which a document is shown, and under which it replaces others. -/
def displayName (d : Document) (category : Category) : String :=
  (d.field? "nome").getD category.defaultName

namespace Prompt

/-- The version of a document that states none. -/
def defaultVersion : String := "1.0.0"

/-- The author of a document that states none. -/
def defaultAuthor : String := "Equipe LNEGC"

/-- A section as it appears in a prompt. -/
structure ShownSection where
  heading : String
  body : String
  deriving DecidableEq, Repr

/-- A body as a prompt shows it. A body shown as items stays as it is if it has none. -/
def styledBody (style : BodyStyle) (body : String) : String :=
  match style, listItems body with
  | .verbatim, _ | .items, [] => body
  | .items, items => "\n".intercalate (items.map fun item => "- " ++ item)

/-- The sections that every prompt of the category has. -/
def requiredShown (d : Document) (category : Category) : List ShownSection :=
  category.requiredSections.map fun s => ⟨s.title, (d.section? s.title).getD s.fallback⟩

/-- The optional sections that the document has. -/
def optionalShown (d : Document) (category : Category) : List ShownSection :=
  category.optionalSections.filterMap fun s =>
    (d.section? s.title).map fun body => ⟨s.heading, styledBody s.style body⟩

/-- A section as a value. -/
def ShownSection.value (s : ShownSection) : Template.Value :=
  .record [("body", .text s.body), ("heading", .text s.heading)]

/-- The variables of the prompt for a document. Fields stand in the order of their names. -/
def bindings (d : Document) (category : Category) (language : String)
    (referenceFallback : Bool) : List (String × Template.Value) :=
  [("ctx", .record [
    ("author", .text ((d.field? "autor").getD defaultAuthor)),
    ("extras", .list ((optionalShown d category).map ShownSection.value)),
    ("kind", .text ((d.field? "tipo").getD category.defaultKind)),
    ("language", .text language),
    ("name", .text (displayName d category)),
    ("reference", ((d.section? referenceTitle).map .text).getD .null),
    ("reference_fallback", .bool referenceFallback),
    ("sections", .list ((requiredShown d category).map ShownSection.value)),
    ("tags", .list (d.tags.map .text)),
    ("version", .text ((d.field? "versao").getD defaultVersion))])]

end Prompt

end SpecPrompt
