import SpecPrompt.Files.Workspace

/-!
# Changes to a workspace

The steps by which a program changes files. Each is atomic: it succeeds as a whole, or it fails and
leaves the workspace as it was.
-/

namespace SpecPrompt

/-- One step that changes files. -/
inductive Change where
  | makeDirectory (path : Path)
  /-- Copies the content of a file to another, which is created or overwritten. -/
  | copy (source target : Path)
  /-- Creates an empty file, or empties the one that is there. -/
  | create (path : Path)
  /-- Gives an existing file its content. -/
  | write (path : Path) (content : ByteArray)
  /-- Makes the content of a file durable. -/
  | sync (path : Path)
  /-- Moves a file, in the place of the one that may be there. -/
  | rename (source target : Path)

namespace Workspace

/-- The workspace with `node` at `loc`. -/
def place (w : Workspace) (loc : Location) (node : Node) : Workspace :=
  { w with tree := w.tree.place loc node }

/-- Creates the directory `p`, whose parent must exist. -/
def makeDirectory (w : Workspace) (p : Path) : Except Fault Workspace := do
  match ← w.locateEntry p with
  | (_, .noName) => .error .alreadyExists
  | (parent, .name name _) =>
    match w.tree.node? (parent ++ [name]) with
    | some _ => .error .alreadyExists
    | none => .ok (w.place (parent ++ [name]) .directory)

/-- Puts `content` into the file that `p` leads to, creating it if nothing is there. -/
def store (w : Workspace) (p : Path) (content : ByteArray) : Except Fault Workspace := do
  match ← w.locate p with
  | .vacant parent name => .ok (w.place (parent ++ [name]) (.file content))
  | .occupied loc =>
    if w.tree.isDirectory loc then .error .isDirectory else .ok (w.place loc (.file content))

/-- Whether `p` leads to the location `loc`. -/
def leadsTo (w : Workspace) (p : Path) (loc : Location) : Bool :=
  match w.locate p with
  | .ok place => place = .occupied loc
  | .error _ => false

/-- Copies the regular file that `source` leads to. The target is emptied before the file is read, so
a file that is copied to itself loses its content. -/
def copy (w : Workspace) (source target : Path) : Except Fault Workspace := do
  match ← w.lookup source with
  | (loc, .file content) => w.store target (if w.leadsTo target loc then .empty else content)
  | _ => .error .notRegularFile

/-- Gives the file that `p` leads to its content. -/
def write (w : Workspace) (p : Path) (content : ByteArray) : Except Fault Workspace := do
  match ← w.lookup p with
  | (loc, .file _) => .ok (w.place loc (.file content))
  | (_, .directory) => .error .isDirectory
  | (_, .link _) => .error .tooManyLinks

/-- Moves the file or link named by `source` to the name `target`. -/
def rename (w : Workspace) (source target : Path) : Except Fault Workspace := do
  let (oldParent, old) ← w.locateEntry source
  let (newParent, new) ← w.locateEntry target
  match old, new with
  | .name oldName _, .name newName slash =>
    match w.tree.node? (oldParent ++ [oldName]) with
    | none => .error .missing
    | some .directory => .error .isDirectory
    | some node =>
      if slash then .error .notDirectory
      else if w.tree.isDirectory (newParent ++ [newName]) then .error .isDirectory
      else
        let moved := (w.tree.remove (oldParent ++ [oldName])).place (newParent ++ [newName]) node
        .ok { w with tree := moved }
  | _, _ => .error .busy

end Workspace

/-- The workspace after a change. -/
def Change.apply (w : Workspace) : Change → Except Fault Workspace
  | .makeDirectory path => w.makeDirectory path
  | .copy source target => w.copy source target
  | .create path => w.store path .empty
  | .write path content => w.write path content
  | .sync path => (w.lookup path).map fun _ => w
  | .rename source target => w.rename source target

end SpecPrompt
