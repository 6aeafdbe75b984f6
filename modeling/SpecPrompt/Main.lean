import Std.Time.DateTime
import Std.Time.Format
import Std.Time.Zoned.Database
import SpecPrompt.CommandLine.Session

/-!
# The command

The files that a session may look at are read into a workspace, the session is computed, and what
it changed and printed is carried over to the disk and the terminal.
-/

namespace SpecPrompt.CommandLine

/-- The names in a path. -/
def namesIn (p : String) : List String :=
  ((p.toList.splitOn '/').filter fun piece => !piece.isEmpty).map String.ofList

/-- What is on the disk at `loc`. A link is taken as one to the place that it leads to in the end; a
link that leads nowhere is taken as one to itself. -/
def nodeOnDisk (loc : Location) : IO (Option Node) := do
  let path := (← IO.currentDir) / ("/" ++ "/".intercalate loc)
  let type? ← try pure (some (← path.symlinkMetadata).type) catch _ => pure none
  match type? with
  | some .dir => return some .directory
  | some .file => return some (.file (← IO.FS.readBinFile path))
  | some .symlink =>
    if ← path.pathExists then return some (.link (← IO.FS.realPath path).toString)
    else return some (.link (loc.getLastD ""))
  | some .other | none => return none

/-- Adds to `tree` what lies on the way from `loc` through the names. Beside the tree the result
holds the directory in which the way ends, if it does end in one. -/
partial def captureWay (tree : FileTree) (loc : Location) :
    List String → IO (FileTree × Option Location)
  | [] => return (tree, some loc)
  | "." :: rest => captureWay tree loc rest
  | ".." :: rest => captureWay tree loc.dropLast rest
  | name :: rest => do
    let below := loc ++ [name]
    match ← nodeOnDisk below with
    | none => return (tree, none)
    | some node =>
      let tree := tree.place below node
      match node with
      | .directory => captureWay tree below rest
      | .file _ => return (tree, none)
      | .link target =>
        if (Path.mk target).isAbsolute then captureWay tree [] (namesIn target ++ rest)
        else return (tree, none)

/-- Adds to `tree` everything beneath `loc`, and the places to which links there lead. -/
partial def captureBeneath (tree : FileTree) (loc : Location) : IO FileTree := do
  let directory := (← IO.currentDir) / ("/" ++ "/".intercalate loc)
  (← directory.readDir).foldlM (fun tree entry => do
    let (tree, below?) ← captureWay tree loc [entry.fileName]
    match below? with
    | some below => if below = loc ++ [entry.fileName] then captureBeneath tree below else pure tree
    | none => pure tree) tree

/-- The paths that a session with these settings may look at, besides those beneath the root. -/
def pathsAround (here : Workspace) (s : Settings) : List Path :=
  let places := match here.absolute s.root with
    | .ok root => configurationPlaces root
    | .error _ => []
  let templates := match s.templates with
    | some directory => directory :: Category.all.map (Prompt.overridePath directory)
    | none => []
  places ++ templates ++ [s.output, Output.temporaryPath s.output]

/-- The files that a session with these settings may look at. -/
def workspaceFor (s : Settings) : IO Workspace := do
  let here := namesIn (← IO.currentDir).toString
  let way (tree : FileTree) (p : Path) : IO (FileTree × Option Location) :=
    captureWay tree (if p.isAbsolute then [] else here) (namesIn p.text)
  let (tree, _) ← captureWay .empty [] here
  let tree ← (pathsAround ⟨tree, here⟩ s).foldlM (fun tree p => Prod.fst <$> way tree p) tree
  match ← way tree s.root with
  | (tree, some root) => return ⟨← captureBeneath tree root, here⟩
  | (tree, none) => return ⟨tree, here⟩

/-- Makes a change on the disk. -/
def carryOut : Change → IO Unit
  | .makeDirectory path => IO.FS.createDir path.text
  | .copy source target => do
    let old ← IO.FS.Handle.mk source.text .read
    let new ← IO.FS.Handle.mk target.text .write
    new.write (← old.readBinToEnd)
  | .create path => IO.FS.writeBinFile path.text .empty
  | .write path content => IO.FS.writeBinFile path.text content
  | .sync path => do (← IO.FS.Handle.mk path.text .append).flush
  | .rename source target => IO.FS.rename source.text target.text

/-- The time since `start` in hundredths of a second. -/
def since (start : Nat) : IO Nat := do
  return ((← IO.monoMsNow) - start + 5) / 10

end SpecPrompt.CommandLine

open SpecPrompt SpecPrompt.CommandLine

/-- Runs the command with its arguments and yields its exit code. -/
def main (arguments : List String) : IO UInt32 := do
  let started ← IO.monoMsNow
  let language ← IO.getEnv "LNEGC_LANGUAGE"
  let stamp := toString (← Std.Time.Timestamp.now).toNanosecondsSinceUnixEpoch.toInt
  let workspace ← match CommandLine.read arguments with
    | .ok (.compile a) => workspaceFor (a.settings language)
    | _ => pure ⟨.empty, []⟩
  let session := Session.ofArguments workspace stamp arguments language
  let compiling ← since started
  let compiled ← IO.monoMsNow
  session.changes.forM fun (change, _) => carryOut change
  let timing : Timing := ⟨compiling, ← since compiled, ← since started⟩
  for event in session.events do
    if event.level.rank ≤ session.level.rank then
      IO.eprintln (event.level.name ++ " " ++ event.message timing)
  let now ← Std.Time.PlainDateTime.now
  IO.print (session.standardOutput ⟨timing, now.format "uuuu-MM-dd HH:mm:ss"⟩)
  IO.eprint session.errorText
  return session.exitCode
