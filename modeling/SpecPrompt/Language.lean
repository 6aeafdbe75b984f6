import SpecPrompt.Document.Basic
import SpecPrompt.Text.Blank
import SpecPrompt.Text.Lines
import SpecPrompt.Text.Split

/-!
# The target language

The language that prompts ask for comes from the first of four sources that states one: the caller,
a line in the settings section of the project's configuration, the configuration's metadata, and a
default. A blank text states no language.
-/

namespace SpecPrompt

/-- The source that a language was taken from. -/
inductive LanguageSource where
  | explicit
  | settings
  | metadata
  | default
  deriving DecidableEq, Repr

/-- What the target language is chosen from. -/
structure LanguageChoice where
  /-- The caller's own choice. -/
  explicit : Option String
  /-- The project's configuration. -/
  configuration : Document
  /-- The language used if nothing else states one. -/
  default : String

/-- `cs` trimmed, unless it is blank. -/
def nonBlank? (cs : List Char) : Option (List Char) :=
  let trimmed := Chars.trim cs
  if trimmed.isEmpty then none else some trimmed

/-- `s` trimmed, unless it is blank. -/
def nonBlankText? (s : String) : Option String :=
  (nonBlank? s.toList).map String.ofList

/-- The title of the section with the project's settings. -/
def settingsTitle : String := "Configurações"

/-- The labels of the language setting, folded. -/
def languageLabels : List (List Char) :=
  ["linguagem padrao".toList, "linguagem".toList, "default language".toList]

/-- A label without accents, in lower case, and with spaces for underscores. -/
def foldLabel (label : List Char) : List Char :=
  (Chars.lower (Chars.stripAccents label)).map fun c => if c = '_' then ' ' else c

/-- `label` without the asterisks that set it in bold, and without the blanks around them. -/
def unboldLabel (label : List Char) : List Char :=
  Chars.trim (Chars.dropEnd (· == '*') (Chars.dropStart (· == '*') (Chars.trim label)))

/-- The language that a line of the settings section states, as `Label: value`, `- Label: value` or
`- **Label**: value`. -/
def languageOfLine? (line : List Char) : Option (List Char) :=
  let line := Chars.trim line
  let line := ("- ".toList.isPrefixOf? line).getD line
  match Chars.splitOnce [':'] line with
  | none => none
  | some (label, value) =>
    if languageLabels.contains (foldLabel (unboldLabel label)) then nonBlank? value else none

namespace LanguageChoice

/-- The language that one source states. -/
def from? (choice : LanguageChoice) : LanguageSource → Option String
  | .explicit => choice.explicit.bind nonBlankText?
  | .settings => do
    let body ← choice.configuration.section? settingsTitle
    ((Chars.lines body.toList).findSome? languageOfLine?).map String.ofList
  | .metadata => (choice.configuration.field? "linguagem").bind nonBlankText?
  | .default => nonBlankText? choice.default

/-- The sources in order of precedence. -/
def precedence : List LanguageSource := [.explicit, .settings, .metadata, .default]

/-- The first source that states a language, with that language. -/
def winner? (choice : LanguageChoice) : Option (LanguageSource × String) :=
  precedence.findSome? fun source => (choice.from? source).map fun language => (source, language)

/-- The language chosen: the default as it is, if no source states one. -/
def language (choice : LanguageChoice) : String :=
  (choice.winner?.map Prod.snd).getD choice.default

end LanguageChoice

end SpecPrompt
