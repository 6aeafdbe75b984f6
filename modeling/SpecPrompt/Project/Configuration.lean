import SpecPrompt.Document.Parse
import SpecPrompt.Files.Workspace
import SpecPrompt.Outcome

/-!
# A project's configuration

A project's configuration is a document of its own, in the project's directory or in one of the two
directories above it, there or in a hidden folder. It states the target language.
-/

namespace SpecPrompt

/-- The name of the configuration. -/
def configurationName : Path := ⟨"config.lnegc"⟩

/-- The hidden folder that may hold the configuration. -/
def configurationFolder : Path := ⟨".lnegc"⟩

/-- The configuration in a directory. -/
def plainConfiguration (directory : Path) : Path :=
  directory.join configurationName

/-- The configuration in the hidden folder of a directory. -/
def hiddenConfiguration (directory : Path) : Path :=
  (directory.join configurationFolder).join configurationName

/-- The places for the configuration of the project at the absolute path `root`. The directories
above it are tried with their hidden folders first. -/
def configurationPlaces (root : Path) : List Path :=
  [plainConfiguration root, hiddenConfiguration root] ++
    (root.ancestors.tail.take 2).flatMap fun above =>
      [hiddenConfiguration above, plainConfiguration above]

namespace Workspace

/-- The places for the configuration of the project at `root`, in the order of trying them. -/
def configurationCandidates (w : Workspace) (root : Path) : Outcome (List Path) := do
  pure (configurationPlaces (← .ofAccess root (w.absolute root)))

/-- The first place that holds a file. -/
def locateConfiguration (w : Workspace) (root : Path) : Outcome Path := do
  let places ← w.configurationCandidates root
  match places.find? w.isFile with
  | none => .fail (.noConfiguration places)
  | some path => do
    .report (.configurationFound path)
    pure path

/-- The document in a file. -/
def readDocument (w : Workspace) (path : Path) : Outcome Document := do
  .report (.parsing path)
  if !w.pathExists path then .fail (.notFound path)
  else
    let document := Document.parse (← .ofAccess path (w.readText path))
    .report (.parsed path document.metadata.size document.sections.size)
    pure document

end Workspace

/-- The language chosen, with a report of the source that stated it. -/
def LanguageChoice.resolve (choice : LanguageChoice) : Outcome String := do
  match choice.winner? with
  | none => pure ()
  | some (source, language) => .report (.languageTaken language source)
  pure choice.language

end SpecPrompt
