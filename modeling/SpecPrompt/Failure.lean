import SpecPrompt.Files.Fault
import SpecPrompt.Files.Path
import SpecPrompt.Glob.Pattern
import SpecPrompt.Template.Fault

/-!
# Failures

The reasons for which a project cannot be compiled, and how each is worded.
-/

namespace SpecPrompt

/-- What is wrong with the caller's settings. -/
inductive SettingsFlaw where
  | rootNotDirectory (root : Path)
  | badExtension (extension : String)
  | blankDefaultLanguage
  | blankTargetLanguage
  | noTemplateDirectory (directory : Path)
  /-- The output path ends in no file name. -/
  | unnamedOutput
  /-- A flaw in the words of whoever met it. -/
  | other (description : String)
  deriving DecidableEq, Repr

/-- The wording of a flaw in the settings. -/
def SettingsFlaw.message : SettingsFlaw → String
  | rootNotDirectory root => "Root path is not a directory: " ++ root.text
  | badExtension extension =>
    "extension must be non-empty and given without a leading dot, got '" ++ extension ++ "'"
  | blankDefaultLanguage => "default_language must not be empty"
  | blankTargetLanguage => "target_language must not be empty"
  | noTemplateDirectory directory => "Template directory does not exist: " ++ directory.text
  | unnamedOutput => "Invalid file path"
  | other description => description

/-- The size in bytes up to which a template file is read. -/
def templateSizeLimit : Nat := 1048576

/-- What is wrong with a template that the caller supplies. -/
inductive TemplateFlaw where
  | tooLarge (size : Nat)
  | blank
  | unreadable
  | missingVariables (names : List String)
  /-- A flaw in the words of whoever met it. -/
  | other (description : String)
  deriving DecidableEq, Repr

/-- The wording of a flaw in a template. -/
def TemplateFlaw.message : TemplateFlaw → String
  | tooLarge size =>
    "Template file too large: " ++ toString size ++ " bytes (max: " ++
      toString templateSizeLimit ++ " bytes)"
  | blank => "Template file is empty"
  | unreadable => "Template syntax error: Failed to parse 'validation'"
  | missingVariables names =>
    "Template is missing required variables: " ++ ", ".intercalate names ++
      ". Prompt templates should name ctx.language and ctx.name."
  | other description => description

/-- Why a project cannot be compiled. -/
inductive Failure where
  /-- A document file or the project directory does not exist. -/
  | notFound (path : Path)
  /-- None of the places for the project's configuration holds a file. -/
  | noConfiguration (tried : List Path)
  /-- A document or template is not UTF-8. -/
  | notUtf8 (path : Path)
  /-- Any other failure of a file-system operation. -/
  | inaccessible (path : Path) (fault : Fault)
  | rendering (template : String) (fault : Template.RenderFault)
  | badTemplate (path : Path) (flaw : TemplateFlaw)
  | badSettings (flaw : SettingsFlaw)
  | badPattern (pattern : String) (flaw : Glob.Flaw)

namespace Failure

/-- The failure that a fault at `path` amounts to. -/
def ofFault (path : Path) : Fault → Failure
  | .missing => notFound path
  | .malformed => notUtf8 path
  | fault => inaccessible path fault

/-- The failure of a template that has no name. -/
def ofTemplate (fault : Template.RenderFault) : Failure :=
  rendering "unknown" fault

/-- The wording of a failure. -/
def message : Failure → String
  | notFound path => "File not found: '" ++ path.text ++ "'"
  | noConfiguration tried =>
    "Configuration file not found. Tried the following paths:\n" ++
      "\n".intercalate (tried.map Path.text)
  | notUtf8 path =>
    "Invalid UTF-8 encoding in file '" ++ path.text ++ "'. Documents must be UTF-8 text."
  | inaccessible path fault =>
    "IO error accessing '" ++ path.text ++ "': " ++ fault.message
  | rendering template fault =>
    "Failed to render template '" ++ template ++ "': " ++
      ": ".intercalate (fault.messages template)
  | badTemplate path flaw => "Invalid template '" ++ path.text ++ "': " ++ flaw.message
  | badSettings flaw => "Invalid configuration: " ++ flaw.message
  | badPattern pattern flaw =>
    "Invalid pattern '" ++ pattern ++ "': " ++ flaw.message pattern

/-- Whether a file, a directory or the configuration is missing. -/
def isNotFound : Failure → Bool
  | notFound _ | noConfiguration _ => true
  | _ => false

/-- Whether a file is not UTF-8. -/
def isNotUtf8 : Failure → Bool
  | notUtf8 _ => true
  | _ => false

/-- Whether a file-system operation failed in any other way. -/
def isInaccessible : Failure → Bool
  | inaccessible _ _ => true
  | _ => false

/-- Whether the caller's settings are at fault. -/
def isBadSettings : Failure → Bool
  | badSettings _ | badPattern _ _ => true
  | _ => false

/-- The path at which a file-system operation failed. -/
def path? : Failure → Option Path
  | notFound path | notUtf8 path | inaccessible path _ => some path
  | _ => none

end Failure

end SpecPrompt
