import SpecPrompt.Failure
import SpecPrompt.Files.Workspace
import SpecPrompt.Glob.Match
import SpecPrompt.Text.Blank

/-!
# Settings

What a caller asks for: which project to compile, where to write the prompts, and how.
-/

namespace SpecPrompt

/-- Which of two documents of one name stays. -/
inductive DuplicatePolicy where
  /-- The later one, in the place of the earlier. -/
  | lastWins
  | firstWins
  deriving DecidableEq, Repr

/-- The settings of a compilation. -/
structure Settings where
  /-- The project's directory. -/
  root : Path := ⟨"lnegc"⟩
  /-- The file for the prompts. -/
  output : Path := ⟨"prompt.txt"⟩
  /-- The language to ask for, whatever the project says. -/
  targetLanguage : Option String := none
  /-- The language to ask for if nothing else states one. -/
  defaultLanguage : String := "python"
  duplicates : DuplicatePolicy := .lastWins
  /-- The extension of documents, without a dot. -/
  extension : String := "lnegc"
  /-- Globs of documents to leave out, matched against their paths from the root. -/
  excludes : List String := []
  /-- A directory with templates that replace the built-in ones. -/
  templates : Option Path := none
  /-- Whether a prompt shows a stock implementation if its document has none. -/
  referenceFallback : Bool := false
  /-- Whether to write nothing. -/
  dryRun : Bool := false
  /-- Whether to keep a copy of the file that the prompts replace. -/
  backup : Bool := false
  deriving DecidableEq, Repr

/-- Fails unless a condition holds. -/
def require (condition : Bool) (failure : Failure) : Except Failure Unit :=
  if condition then .ok () else .error failure

/-- The glob that a pattern writes down. -/
def readGlob (pattern : String) : Except Failure Glob :=
  (Glob.parse pattern).mapError (.badPattern pattern)

/-- Checks settings against the files they speak of. The first flaw found is reported. -/
def Settings.validate (w : Workspace) (s : Settings) : Except Failure Unit := do
  require (w.pathExists s.root) (.notFound s.root)
  require (w.isDirectory s.root) (.badSettings (.rootNotDirectory s.root))
  require (!s.extension.isEmpty && s.extension.toList.head? ≠ some '.')
    (.badSettings (.badExtension s.extension))
  require (!Text.isBlank s.defaultLanguage) (.badSettings .blankDefaultLanguage)
  require (!s.targetLanguage.any Text.isBlank) (.badSettings .blankTargetLanguage)
  s.excludes.forM fun pattern => do let _ ← readGlob pattern
  match s.templates with
  | none => .ok ()
  | some directory =>
    require (w.isDirectory directory) (.badSettings (.noTemplateDirectory directory))

end SpecPrompt
