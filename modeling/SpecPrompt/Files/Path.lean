/-!
# Paths

A path is a text that names a place in a file tree: names separated by slashes, after a slash if
the path starts at the root. Empty pieces and pieces `.` name nothing, except that a leading `.`
counts as a component of its own.
-/

namespace SpecPrompt

/-- The text of a path. -/
structure Path where
  text : String
  deriving DecidableEq, Repr, Inhabited

namespace Path

/-- What a path starts with. -/
inductive Lead where
  /-- A slash: the path starts at the root. -/
  | root
  /-- A piece `.`. -/
  | here
  /-- Neither. -/
  | none
  deriving DecidableEq, Repr

/-- The text of a lead. -/
def Lead.chars : Lead → List Char
  | .root => ['/']
  | .here => ['.']
  | .none => []

/-- Whether a piece between slashes is a component. -/
def isComponent (piece : List Char) : Bool :=
  !piece.isEmpty && piece != ['.']

/-- `pieces` up to the last component among them. -/
def upToLast (pieces : List (List Char)) : List (List Char) :=
  (pieces.reverse.dropWhile fun piece => !isComponent piece).reverse

/-- The lead of a path. -/
def lead (p : Path) : Lead :=
  match p.text.toList with
  | '/' :: _ => .root
  | ['.'] => .here
  | '.' :: '/' :: _ => .here
  | _ => .none

/-- The pieces between slashes after the lead. -/
def pieces (p : Path) : List (List Char) :=
  (p.text.toList.drop p.lead.chars.length).splitOn '/'

/-- The components after the lead. -/
def components (p : Path) : List (List Char) :=
  p.pieces.filter isComponent

/-- The path with the given lead and pieces. -/
def ofPieces (lead : Lead) (pieces : List (List Char)) : Path :=
  ⟨String.ofList (lead.chars ++ ['/'].intercalate pieces)⟩

/-- Whether the path starts at the root. -/
def isAbsolute (p : Path) : Bool :=
  p.lead = .root

/-- Whether two paths have the same components. -/
def sameAs (p q : Path) : Bool :=
  p.lead = q.lead && p.components = q.components

/-- The path without its last component, and without the separators that end up last. A path
without components has a parent only if it is `.`. -/
def parent? (p : Path) : Option Path :=
  match upToLast p.pieces with
  | [] => if p.lead = .here then some ⟨""⟩ else none
  | pieces => some (ofPieces p.lead (upToLast pieces.dropLast))

/-- The last component, unless it is `..`. -/
def fileName? (p : Path) : Option String :=
  match p.components.getLast? with
  | none => none
  | some name => if name = ['.', '.'] then none else some (String.ofList name)

/-- `p` followed by `q`; `q` itself if it starts at the root. -/
def join (p q : Path) : Path :=
  if q.isAbsolute || p.text.isEmpty then q
  else if p.text.toList.getLast? = some '/' then ⟨p.text ++ q.text⟩
  else ⟨p.text ++ "/" ++ q.text⟩

/-- The path and its parents, nearest first. -/
def ancestors (p : Path) : List Path :=
  climb p.text.length p
where
  climb : Nat → Path → List Path
    | 0, p => [p]
    | n + 1, p => match p.parent? with
      | none => [p]
      | some parent => p :: climb n parent

/-- A file name up to its last dot, unless that dot comes first. -/
def stem (name : List Char) : List Char :=
  match name.reverse.dropWhile (· != '.') with
  | _ :: before => if before.isEmpty then name else before.reverse
  | [] => name

/-- The path with its file name's extension replaced, or added if there is none. -/
def withExtension (p : Path) (extension : String) : Path :=
  match p.fileName? with
  | none => p
  | some name =>
    ofPieces p.lead ((upToLast p.pieces).dropLast ++
      [stem name.toList ++ '.' :: extension.toList])

/-- The sibling called `name`. -/
def withFileName (p : Path) (name : String) : Path :=
  (p.parent?.getD ⟨""⟩).join ⟨name⟩

/-- The path from the root that `p` means in the directory `here`; none if `p` is empty. Empty
pieces and pieces `.` are left out and `..` is kept. Exactly two leading slashes stay two, and a
final slash stays. -/
def absolute? (p here : Path) : Option Path :=
  if p.text.isEmpty then none
  else
    let start : Path :=
      match p.text.toList with
      | '/' :: '/' :: '/' :: _ => ⟨"/"⟩
      | '/' :: '/' :: _ => ⟨"//"⟩
      | '/' :: _ => ⟨"/"⟩
      | _ => here
    let names : Path := ofPieces .none p.components
    let whole := if names.text.isEmpty then start else start.join names
    if p.text.toList.getLast? = some '/' then some (whole.join ⟨""⟩) else some whole

end Path

end SpecPrompt
