import SpecPrompt.Category
import SpecPrompt.Files.Path
import SpecPrompt.Language

/-!
# Events

What a compilation reports while it works.
-/

namespace SpecPrompt

/-- How much an event matters, the most severe level first. -/
inductive Level where
  | error
  | warn
  | info
  | debug
  | trace
  deriving DecidableEq, Repr

namespace Level

/-- The place of a level, counted from the most severe one. -/
def rank : Level → Nat
  | error => 0
  | warn => 1
  | info => 2
  | debug => 3
  | trace => 4

/-- The name of a level. -/
def name : Level → String
  | error => "ERROR"
  | warn => "WARN"
  | info => "INFO"
  | debug => "DEBUG"
  | trace => "TRACE"

end Level

/-- How long the parts of a run took, in hundredths of a second. -/
structure Timing where
  compiling : Nat
  writing : Nat
  total : Nat
  deriving DecidableEq, Repr

/-- A duration in seconds with two places. -/
def Timing.seconds (hundredths : Nat) : String :=
  let rest := hundredths % 100
  toString (hundredths / 100) ++ "." ++ toString (rest / 10) ++ toString (rest % 10)

/-- Something worth reporting. -/
inductive Event where
  | parsing (path : Path)
  | parsed (path : Path) (keys sections : Nat)
  | configurationFound (path : Path)
  | languageTaken (language : String) (source : LanguageSource)
  | languageChosen (language : String)
  | templateOverridden (path : Path)
  | variableUnused (name : String)
  | scanning (root : Path)
  | linkSkipped (path : Path)
  | excluded (relative : String)
  | scanned (count : Nat)
  | documentReplaced (category : Category) (name file : String)
  | documentDropped (category : Category) (name file : String)
  | documentAdded (category : Category) (name file : String)
  | rendered (category : Category) (name : String)
  | categoryCompiled (category : Category) (count : Nat)
  | runStarted
  | compilingStarted
  | compiled (count : Nat)
  | nothingFound (root : Path)
  | writingSkipped
  | writingStarted
  | backedUp (path : Path)
  | written (count : Nat) (path : Path)
  | runFinished
  deriving DecidableEq, Repr

namespace LanguageSource

/-- A source of the target language in words. -/
def description : LanguageSource → String
  | explicit => "explicit override"
  | settings => "configuration section"
  | metadata => "configuration metadata"
  | default => "default"

end LanguageSource

namespace Event

/-- How much an event matters. -/
def level : Event → Level
  | parsing _ | excluded _ => .trace
  | parsed _ _ _ | languageTaken _ _ | variableUnused _ | scanning _ | linkSkipped _ | scanned _
  | documentAdded _ _ _ | rendered _ _ | backedUp _ => .debug
  | documentReplaced _ _ _ | documentDropped _ _ _ | nothingFound _ | writingSkipped => .warn
  | configurationFound _ | languageChosen _ | templateOverridden _ | categoryCompiled _ _
  | runStarted | compilingStarted | compiled _ | writingStarted | written _ _ | runFinished => .info

/-- The wording of an event in a run with the given timing. -/
def message (timing : Timing) : Event → String
  | parsing path => "Parsing " ++ path.text
  | parsed path keys sections =>
    "Parsed " ++ path.text ++ " (" ++ toString keys ++ " metadata keys, " ++ toString sections ++
      " sections)"
  | configurationFound path => "Loading configuration from " ++ path.text
  | languageTaken language source =>
    "Target language '" ++ language ++ "' taken from " ++ source.description
  | languageChosen language => "Target language: " ++ language
  | templateOverridden path => "Using template override " ++ path.text
  | variableUnused name => "Template does not use optional variable: " ++ name
  | scanning root => "Scanning " ++ root.text
  | linkSkipped path => "Skipping symlink " ++ path.text
  | excluded relative => "Excluded by pattern: " ++ relative
  | scanned count => "Found " ++ toString count ++ " document files"
  | documentReplaced category name file =>
    category.key ++ " '" ++ name ++ "' redefined by " ++ file ++ ", replacing earlier document"
  | documentDropped category name file =>
    category.key ++ " '" ++ name ++ "' redefined by " ++ file ++ ", keeping earlier document"
  | documentAdded category name file => category.key ++ " '" ++ name ++ "' from " ++ file
  | rendered category name => "Rendered " ++ category.key ++ " prompt '" ++ name ++ "'"
  | categoryCompiled category count =>
    "✓ " ++ category.key ++ ": " ++ toString count ++ " prompt(s)"
  | runStarted => "Starting compilation"
  | compilingStarted => "Stage 1/2: Compiling documents..."
  | compiled count =>
    "✓ Compiled " ++ toString count ++ " prompt(s) in " ++ Timing.seconds timing.compiling ++ "s"
  | nothingFound root => "No documents found under " ++ root.text
  | writingSkipped => "Dry run mode enabled - skipping file writes"
  | writingStarted => "Stage 2/2: Writing output file..."
  | backedUp path => "Created backup: " ++ path.text
  | written count path => "Wrote " ++ toString count ++ " prompt(s) to " ++ path.text
  | runFinished =>
    "✓ Compilation completed successfully in " ++ Timing.seconds timing.total ++ "s"

end Event

end SpecPrompt
