import SpecPrompt.SortedMap

/-!
# File trees

A file tree assigns a node to each location in it. A location is the list of names that lead to it
from the root, and every location but the root lies in a directory. Not every text is a name. Names
that are no text, since their bytes are not UTF-8, are left out.
-/

namespace SpecPrompt

/-- The names on the way from the root. -/
abbrev Location := List String

/-- What is at a location. -/
inductive Node where
  | file (content : ByteArray)
  | directory
  /-- A symbolic link with the text of its target. -/
  | link (target : String)

/-- Two files are the same node if their bytes are the same. -/
instance : DecidableEq Node
  | .file a, .file b => decidable_of_iff (a.data = b.data) (by cases a; cases b; simp)
  | .directory, .directory => isTrue rfl
  | .link s, .link t => decidable_of_iff (s = t) (by simp)
  | .file _, .directory | .file _, .link _ | .directory, .file _ | .directory, .link _
  | .link _, .file _ | .link _, .directory => isFalse nofun

/-- The longest name that a directory can hold, in bytes. -/
def longestName : Nat := 255

/-- Whether a directory can hold something under `name`. -/
def IsName (name : String) : Prop :=
  (name ≠ "" ∧ name ≠ "." ∧ name ≠ "..") ∧ ('/' ∉ name.toList ∧ Char.ofNat 0 ∉ name.toList) ∧
    name.utf8ByteSize ≤ longestName

instance (name : String) : Decidable (IsName name) :=
  inferInstanceAs (Decidable (_ ∧ _ ∧ _))

/-- Whether `nodes` make `loc` a directory. The root always is one. -/
def IsDirectoryIn (nodes : SortedMap Location Node) (loc : Location) : Prop :=
  loc = [] ∨ nodes.get? loc = some .directory

instance (nodes : SortedMap Location Node) (loc : Location) :
    Decidable (IsDirectoryIn nodes loc) :=
  inferInstanceAs (Decidable (_ ∨ _))

/-- The nodes below the root by location. -/
structure FileTree where
  nodes : SortedMap Location Node
  rooted : ∀ loc node, nodes.get? loc = some node →
    loc ≠ [] ∧ IsDirectoryIn nodes loc.dropLast
  named : ∀ loc node, nodes.get? loc = some node → ∀ name ∈ loc, IsName name

namespace FileTree

/-- The tree whose root is empty. -/
def empty : FileTree where
  nodes := ∅
  rooted _ node h := nomatch (h : none = some node)
  named _ node h := nomatch (h : none = some node)

instance : Inhabited FileTree := ⟨empty⟩

/-- The node at `loc`. -/
def node? (t : FileTree) (loc : Location) : Option Node :=
  if loc = [] then some .directory else t.nodes.get? loc

/-- Whether there is a directory at `loc`. -/
def isDirectory (t : FileTree) (loc : Location) : Bool :=
  decide (IsDirectoryIn t.nodes loc)

/-- A node can be placed at `loc` if the names are ones, its parent is a directory, and it is no
directory itself. -/
def HasRoom (t : FileTree) (loc : Location) : Prop :=
  (loc ≠ [] ∧ ∀ name ∈ loc, IsName name) ∧ IsDirectoryIn t.nodes loc.dropLast ∧
    ¬ IsDirectoryIn t.nodes loc

instance (t : FileTree) (loc : Location) : Decidable (t.HasRoom loc) :=
  inferInstanceAs (Decidable (_ ∧ _ ∧ ¬ _))

/-- The tree with `node` at `loc`, in the place of the file or link that may be there. Without room
for it the tree stays as it is. -/
def place (t : FileTree) (loc : Location) (node : Node) : FileTree :=
  if room : t.HasRoom loc then
    { nodes := t.nodes.insert loc node
      rooted := by
        obtain ⟨⟨nonempty, _⟩, above, vacant⟩ := room
        have keeps : ∀ other, IsDirectoryIn t.nodes other →
            IsDirectoryIn (t.nodes.insert loc node) other := by
          intro other h
          rcases h with h | h
          · exact .inl h
          · have apart : other ≠ loc := fun same => vacant (.inr (same ▸ h))
            exact .inr ((SortedMap.get?_insert_of_ne apart _ _).trans h)
        intro other found h
        by_cases same : other = loc
        · subst same
          exact ⟨nonempty, keeps _ above⟩
        · rw [SortedMap.get?_insert_of_ne same] at h
          exact ⟨(t.rooted other found h).1, keeps _ (t.rooted other found h).2⟩
      named := by
        intro other found h
        by_cases same : other = loc
        · exact same ▸ room.1.2
        · rw [SortedMap.get?_insert_of_ne same] at h
          exact t.named other found h }
  else t

/-- The tree without the node at `loc` and the nodes beneath it. -/
def remove (t : FileTree) (loc : Location) : FileTree where
  nodes := t.nodes.filterKeys fun other => !loc.isPrefixOf other
  rooted := by
    intro other found h
    rw [SortedMap.get?_filterKeys] at h
    split at h
    next kept =>
      obtain ⟨nonempty, above⟩ := t.rooted other found h
      refine ⟨nonempty, above.imp_right fun above => ?_⟩
      rw [SortedMap.get?_filterKeys, if_pos, above]
      simp only [Bool.not_eq_true', ← Bool.not_eq_true, List.isPrefixOf_iff_prefix] at kept ⊢
      exact fun below => kept (below.trans (List.dropLast_prefix other))
    · cases h
  named := by
    intro other found h
    rw [SortedMap.get?_filterKeys] at h
    split at h
    · exact t.named other found h
    · cases h

/-- The locations beneath `loc` with their nodes, each as the names leading to it from there. -/
def beneath (t : FileTree) (loc : Location) : List (List String × Node) :=
  t.nodes.toList.filterMap fun (other, node) =>
    match loc.isPrefixOf? other with
    | some (name :: names) => some (name :: names, node)
    | _ => none

end FileTree

end SpecPrompt
