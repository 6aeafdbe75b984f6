import SpecPrompt.Output.Publish
import SpecPrompt.Project.Compile

/-!
# Runs

A run compiles a project, writes its prompts, and reports what it did.
-/

namespace SpecPrompt

/-- What a run did. -/
structure RunReport where
  counts : List (Category × Nat)
  total : Nat
  language : String
  output : Path
  filesWritten : Nat
  deriving DecidableEq, Repr

/-- The report on some prompts. -/
def RunReport.ofPrompts (settings : Settings) (language : String) (prompts : Prompts) :
    RunReport where
  counts := prompts.byCategory.map fun (category, ps) => (category, ps.length)
  total := prompts.total
  language := language
  output := settings.output
  filesWritten := if settings.dryRun then 0 else 1

/-- Compiles the project and writes its prompts. `stamp` is the time for the name of a copy. -/
def Compiler.run (c : Compiler) (stamp : String) : Writing RunReport := do
  Writing.report .runStarted
  Writing.report .compilingStarted
  let (language, prompts) ← Writing.ofOutcome c.compile
  Writing.report (.compiled prompts.total)
  if prompts.isEmpty then Writing.report (.nothingFound c.settings.root)
  if c.settings.dryRun then Writing.report .writingSkipped
  else
    Writing.report .writingStarted
    Output.publish c.settings stamp prompts.flatten
  Writing.report .runFinished
  pure (.ofPrompts c.settings language prompts)

/-- Makes the settings ready and runs with them. -/
def Settings.run (settings : Settings) (stamp : String) : Writing RunReport := do
  let c ← Writing.ofOutcome fun w => Compiler.prepare w settings
  c.run stamp

end SpecPrompt
