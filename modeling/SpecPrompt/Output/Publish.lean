import SpecPrompt.Output.Writing
import SpecPrompt.Settings

/-!
# Writing the prompts

The prompts go to one file. They are first written to a temporary file beside it, which then takes
its name, so that the file is replaced in one step. The file that was there before can be kept
under another name.
-/

namespace SpecPrompt.Output

/-- The text between two prompts. -/
def separator : String := "\n\n"

/-- The content of the file for some prompts. -/
def contentOf (prompts : List String) : ByteArray :=
  (separator.intercalate prompts).toUTF8

/-- The file that the prompts are first written to. -/
def temporaryPath (output : Path) : Path :=
  output.withExtension "tmp"

/-- The copy of the file `name` at `output`, made at the time `stamp`. -/
def backupPath (output : Path) (name stamp : String) : Path :=
  output.withFileName (name ++ ".backup." ++ stamp)

/-- Makes a change, unless there is a directory at `path` anyway. -/
def makeDirectory (path : Path) : Writing (Except Fault Unit) := do
  match ← Writing.attempt (.makeDirectory path) with
  | .ok () => pure (.ok ())
  | .error fault =>
    if (← Writing.current).isDirectory path then pure (.ok ()) else pure (.error fault)

/-- Makes the first of `paths` a directory. Each path is followed by its parents, which are made
first if they are missing. -/
def ensureDirectory : List Path → Writing (Except Fault Unit)
  | [] => pure (.error .noRoot)
  | path :: parents => do
    if path.text.isEmpty then pure (.ok ())
    else match ← makeDirectory path with
      | .error .missing =>
        match ← ensureDirectory parents with
        | .ok () => makeDirectory path
        | .error fault => pure (.error fault)
      | made => pure made

/-- Makes the directory of `output`. -/
def makeParent (output : Path) : Writing Unit := do
  match output.parent? with
  | none => pure ()
  | some parent =>
    if parent.text.isEmpty then pure ()
    else match ← ensureDirectory parent.ancestors with
      | .ok () => pure ()
      | .error fault => Writing.fail (.ofFault parent fault)

/-- Keeps a copy of the file at `output`. -/
def backUp (output : Path) (stamp : String) : Writing Unit := do
  match output.fileName? with
  | none => Writing.fail (.badSettings .unnamedOutput)
  | some name =>
    let copy := backupPath output name stamp
    Writing.perform (.copy output copy) copy
    Writing.report (.backedUp copy)

/-- Replaces the file at `output` in one step. -/
def replace (output : Path) (content : ByteArray) : Writing Unit := do
  let temporary := temporaryPath output
  Writing.perform (.create temporary) temporary
  Writing.perform (.write temporary content) temporary
  Writing.perform (.sync temporary) temporary
  Writing.perform (.rename temporary output) output

/-- Writes the prompts to the file that the settings name. `stamp` is the time for the name of a
copy. -/
def publish (settings : Settings) (stamp : String) (prompts : List String) : Writing Unit := do
  makeParent settings.output
  if settings.backup && (← Writing.current).pathExists settings.output then
    backUp settings.output stamp
  replace settings.output (contentOf prompts)
  Writing.report (.written prompts.length settings.output)

end SpecPrompt.Output
