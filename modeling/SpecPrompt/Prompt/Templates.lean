import SpecPrompt.Outcome
import SpecPrompt.Prompt.Builtin
import SpecPrompt.Settings
import SpecPrompt.Template.Parse

/-!
# The templates of a compilation

The caller may replace the built-in template of a category by a file of that category's name. Such
a file is checked before it is used.
-/

namespace SpecPrompt.Prompt

open Template

/-- The template of each category. -/
abbrev Templates := Category → List Part

/-- The fields that a template has to name. -/
def requiredFields : List String := ["language", "name"]

/-- The fields whose absence from a template is reported. -/
def optionalFields : List String :=
  ["version", "author", "kind", "sections", "extras", "reference", "tags"]

/-- Whether a template names a field. -/
def names (source field : String) : Bool :=
  Text.hasPart ("ctx." ++ field) source

/-- The template in the bytes of a file, unless it is flawed. -/
def readTemplate (path : Path) (content : ByteArray) : Outcome (List Part) := do
  let refuse (flaw : TemplateFlaw) : Outcome (List Part) := .fail (.badTemplate path flaw)
  if templateSizeLimit < content.size then refuse (.tooLarge content.size)
  else match String.fromUTF8? content with
    | none => .fail (.notUtf8 path)
    | some source =>
      if Text.isBlank source then refuse .blank
      else match parse? source with
        | none => refuse .unreadable
        | some parts =>
          match requiredFields.filter fun field => !names source field with
          | [] => do
            (optionalFields.filter fun field => !names source field).forM fun field =>
              .report (.variableUnused field)
            pure parts
          | missing => refuse (.missingVariables missing)

/-- The file in `directory` that replaces the template of a category. -/
def overridePath (directory : Path) (category : Category) : Path :=
  directory.join ⟨category.templateName ++ ".tera"⟩

/-- The templates with the one of a category replaced, if `directory` has a file for it. -/
def override (w : Workspace) (directory : Path) (templates : Templates) (category : Category) :
    Outcome Templates := do
  let path := overridePath directory category
  if !w.isFile path then pure templates
  else
    let parts ← readTemplate path (← .ofAccess path (w.readBytes path))
    .report (.templateOverridden path)
    pure fun other => if other = category then parts else templates other

/-- The templates that the settings ask for. -/
def loadTemplates (w : Workspace) (settings : Settings) : Outcome Templates :=
  match settings.templates with
  | none => pure builtin
  | some directory => Category.all.foldlM (override w directory) builtin

end SpecPrompt.Prompt
