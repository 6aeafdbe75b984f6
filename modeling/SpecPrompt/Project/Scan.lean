import SpecPrompt.Glob.Expression
import SpecPrompt.Outcome
import SpecPrompt.Settings
import SpecPrompt.Text.Split

/-!
# Finding documents

The documents of a project are the files beneath its root with the right extension, hidden ones
too, unless a glob excludes them. A link to a file counts as a file; a link to a directory is not
entered. Whatever the order in which the files are listed, the documents come in the order of their
paths from the root.

The walk opens each directory by its path, which starts with the root as it is spelled. So a
directory deep down may have a path that is too long to be opened, and then the whole scan fails.
-/

namespace SpecPrompt

/-- A document of a project. -/
structure DocumentFile where
  path : Path
  /-- The path from the project's root, with slashes for backslashes. -/
  relative : String
  deriving DecidableEq, Repr

/-- What a scan looks for. -/
structure Scanner where
  /-- The project's root as an absolute path. -/
  root : Path
  documents : Glob
  excludes : List Glob

/-- Something found beneath a directory: the names that lead to it, and whether it is a file, a
directory or a link. -/
structure Found where
  names : List String
  node : Node

/-- Everything beneath the directory that `root` leads to, each directory before what is in it. A
link that `root` itself names comes first. Whether the directories can be opened is not asked yet:
see `Scanner.enter`. -/
def Workspace.listing (w : Workspace) (root : Path) : List Found :=
  let rootLink := if w.isLink root then [⟨[], .link root.text⟩] else []
  match w.lookup root with
  | .ok (loc, .directory) => rootLink ++ (w.tree.beneath loc).map fun (names, node) => ⟨names, node⟩
  | _ => []

namespace Scanner

/-- The glob for the documents with an extension. It is matched by an expression of its own, and a
pattern for which that nests too deep is bad. (For a pattern that the caller excludes this is a
failure as well. For this one the program itself stops, without any failure to report.) -/
def documentGlob (extension : String) : Except Failure Glob := do
  let pattern := "**/*." ++ extension
  let glob ← readGlob pattern
  require (!glob.isTooDeep) (.badPattern pattern (.expressionTooDeep glob.expression))
  .ok glob

/-- The scanner that the settings ask for. -/
def ofSettings (w : Workspace) (s : Settings) : Except Failure Scanner := do
  let root ← (w.absolute s.root).mapError (.ofFault s.root)
  let documents ← documentGlob s.extension
  let excludes ← s.excludes.mapM readGlob
  (Glob.checkSet excludes).mapError (.badPattern (", ".intercalate s.excludes))
  .ok ⟨root, documents, excludes⟩

/-- The path of something found. -/
def pathOf (s : Scanner) (found : Found) : Path :=
  if found.names.isEmpty then s.root else s.root.join ⟨"/".intercalate found.names⟩

/-- The document at a path from the root, if the globs let it pass. Names are texts here, so the
path from the root shows them all as they are, but for backslashes. -/
def accept (s : Scanner) (path : Path) (relative : String) : Outcome (List DocumentFile) :=
  if !s.documents.isMatch relative then pure []
  else if s.excludes.any fun glob => glob.isMatch relative then do
    .report (.excluded relative)
    pure []
  else pure [⟨path, Text.replaceChar '\\' '/' relative⟩]

/-- The failure of a walk at a directory that it cannot open. -/
def walkFailure (path : Path) (fault : Fault) : Failure :=
  .inaccessible path (.other
    (path.text ++ ": IO error for operation on " ++ path.text ++ ": " ++ fault.message))

/-- Opens a directory to walk through it. -/
def enter (w : Workspace) (path : Path) : Outcome Unit :=
  match w.lookup path with
  | .ok _ => pure ()
  | .error fault => .fail (walkFailure path fault)

/-- The document that something found is, if it is one. -/
def classify (s : Scanner) (w : Workspace) (found : Found) : Outcome (List DocumentFile) :=
  let path := s.pathOf found
  match found.node with
  | .directory => do
    enter w path
    pure []
  | .file _ => s.accept path ("/".intercalate found.names)
  | .link _ =>
    if w.isFile path then s.accept path ("/".intercalate found.names)
    else do
      .report (.linkSkipped path)
      pure []

/-- The documents among what is listed beneath the root. -/
def documentsIn (s : Scanner) (w : Workspace) (listing : List Found) :
    Outcome (List DocumentFile) := do
  let files := (← listing.mapM (s.classify w)).flatten
  let sorted := files.mergeSort fun a b => decide (a.relative ≤ b.relative)
  .report (.scanned sorted.length)
  pure sorted

/-- The documents beneath the root. -/
def scan (s : Scanner) (w : Workspace) : Outcome (List DocumentFile) := do
  if !w.isDirectory s.root then .fail (.notFound s.root)
  else
    .report (.scanning s.root)
    s.documentsIn w (w.listing s.root)

end Scanner

end SpecPrompt
