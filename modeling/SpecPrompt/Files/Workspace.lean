import SpecPrompt.Files.Fault
import SpecPrompt.Files.Path
import SpecPrompt.Files.Tree

/-!
# Workspaces

A file tree with a current directory, in which paths lead to locations. Walking a path follows the
symbolic links on it, at most forty of them.
-/

namespace SpecPrompt

/-- A file tree with a current directory. -/
structure Workspace where
  tree : FileTree
  /-- The location of the current directory. -/
  here : Location
  deriving Inhabited

/-- The names that `text` walks through. A final slash asks for a directory, as a final `.` does. -/
def stepsOf (text : String) : List String :=
  let cs := text.toList
  let names := ((cs.splitOn '/').filter fun piece => !piece.isEmpty).map String.ofList
  if cs.getLast? = some '/' then names ++ ["."] else names

/-- The location from which `text` starts. -/
def startOf (here : Location) (text : String) : Location :=
  if text.toList.head? = some '/' then [] else here

/-- Where a walk through names ends. -/
inductive Place where
  /-- At a location with a node. -/
  | occupied (loc : Location)
  /-- In a directory that has nothing under the last name. -/
  | vacant (parent : Location) (name : String)
  deriving DecidableEq, Repr

/-- How far a walk gets before it has to follow a link. -/
inductive Stretch where
  | ended (place : Place)
  | failed (fault : Fault)
  | atLink (parent : Location) (target : String) (rest : List String)

/-- The length in bytes from which on a path is too long. -/
def pathLimit : Nat := 4096

/-- The number of links that one walk follows. -/
def linkLimit : Nat := 40

namespace FileTree

/-- Walks from `loc` through the names up to the first link. -/
def walk (t : FileTree) (loc : Location) : List String → Stretch
  | [] => .ended (.occupied loc)
  | name :: rest =>
    if !t.isDirectory loc then .failed .notDirectory
    else if name = "." then t.walk loc rest
    else if name = ".." then t.walk loc.dropLast rest
    else if longestName < name.utf8ByteSize then .failed .nameTooLong
    else match t.nodes.get? (loc ++ [name]) with
      | some (.link target) => .atLink loc target rest
      | some _ => t.walk (loc ++ [name]) rest
      | none => if rest.isEmpty then .ended (.vacant loc name) else .failed .missing

/-- Walks from `loc` through the names, following at most `links` links. -/
def follow (t : FileTree) : (links : Nat) → Location → List String → Except Fault Place
  | links, loc, names =>
    match t.walk loc names with
    | .ended place => .ok place
    | .failed fault => .error fault
    | .atLink parent target rest =>
      match links with
      | 0 => .error .tooManyLinks
      | links + 1 => t.follow links (startOf parent target) (stepsOf target ++ rest)

end FileTree

/-- The end of a path that is not walked through. -/
inductive LastStep where
  /-- A name, with a slash after it or not. -/
  | name (name : String) (slash : Bool)
  /-- The root, `.` or `..`. -/
  | noName
  deriving DecidableEq, Repr

namespace Workspace

/-- The path of the current directory. -/
def herePath (w : Workspace) : Path :=
  ⟨"/" ++ "/".intercalate w.here⟩

/-- Refuses the texts that are no path at all. -/
def checkText (p : Path) : Except Fault Unit :=
  if p.text.isEmpty then .error .missing
  else if p.text.toList.contains (Char.ofNat 0) then .error .nulInPath
  else if pathLimit ≤ p.text.utf8ByteSize then .error .nameTooLong
  else .ok ()

/-- Where a path leads, all links followed. -/
def locate (w : Workspace) (p : Path) : Except Fault Place := do
  checkText p
  w.tree.follow linkLimit (startOf w.here p.text) (stepsOf p.text)

/-- The directory in which the last step of a path is taken, and that step. -/
def locateEntry (w : Workspace) (p : Path) : Except Fault (Location × LastStep) := do
  checkText p
  let names := ((p.text.toList.splitOn '/').filter fun piece => !piece.isEmpty).map String.ofList
  match ← w.tree.follow linkLimit (startOf w.here p.text) names.dropLast with
  | .vacant _ _ => .error .missing
  | .occupied parent =>
    if !w.tree.isDirectory parent then .error .notDirectory
    else match names.getLast? with
      | none => .ok (parent, .noName)
      | some name =>
        if name = "." || name = ".." then .ok (parent, .noName)
        else if longestName < name.utf8ByteSize then .error .nameTooLong
        else .ok (parent, .name name (p.text.toList.getLast? = some '/'))

/-- The location and node that a path leads to. -/
def lookup (w : Workspace) (p : Path) : Except Fault (Location × Node) := do
  match ← w.locate p with
  | .vacant _ _ => .error .missing
  | .occupied loc =>
    match w.tree.node? loc with
    | some node => .ok (loc, node)
    | none => .error .missing

/-- Whether a path leads to anything. -/
def pathExists (w : Workspace) (p : Path) : Bool :=
  (w.lookup p).isOk

/-- Whether a path leads to a regular file. -/
def isFile (w : Workspace) (p : Path) : Bool :=
  match w.lookup p with
  | .ok (_, .file _) => true
  | _ => false

/-- Whether a path leads to a directory. -/
def isDirectory (w : Workspace) (p : Path) : Bool :=
  match w.lookup p with
  | .ok (_, .directory) => true
  | _ => false

/-- Whether a path itself names a symbolic link. -/
def isLink (w : Workspace) (p : Path) : Bool :=
  match w.locateEntry p with
  | .ok (parent, .name name false) =>
    match w.tree.node? (parent ++ [name]) with
    | some (.link _) => true
    | _ => false
  | _ => false

/-- The bytes of the file that a path leads to. -/
def readBytes (w : Workspace) (p : Path) : Except Fault ByteArray := do
  match ← w.lookup p with
  | (_, .file content) => .ok content
  | (_, .directory) => .error .isDirectory
  | (_, .link _) => .error .tooManyLinks

/-- The text of the file that a path leads to. -/
def readText (w : Workspace) (p : Path) : Except Fault String := do
  match String.fromUTF8? (← w.readBytes p) with
  | some text => .ok text
  | none => .error .malformed

/-- The path from the root that `p` means here. -/
def absolute (w : Workspace) (p : Path) : Except Fault Path :=
  match p.absolute? w.herePath with
  | some absolute => .ok absolute
  | none => .error .emptyPath

end Workspace

end SpecPrompt
