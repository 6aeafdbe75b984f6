import SpecPrompt.Project.Scan
import SpecPrompt.Proofs.Files.Walking
import SpecPrompt.Proofs.Outcome

/-!
# What a scan finds

A scan of a directory succeeds if the walk can open every directory beneath it, and that only takes
a path which is short enough. It finds the files, and the links to files, that the globs let pass.
Each of these can be read unless its path is too long.

## Main results

- `result_scan`: the files that a scan finds, or the directory at which it fails.
- `lookup_of_mem_accepted`: what the path of such a file leads to.
-/

namespace SpecPrompt

namespace Scanner

open Outcome

/-- Whether something found is a file or a link to one. -/
def findsFile (s : Scanner) (w : Workspace) (found : Found) : Bool :=
  match found.node with
  | .directory => false
  | .file _ => true
  | .link _ => w.isFile (s.pathOf found)

/-- Whether the globs let a path from the root pass. -/
def passes (s : Scanner) (relative : String) : Bool :=
  s.documents.isMatch relative && !s.excludes.any fun glob => glob.isMatch relative

/-- Whether something found is a document. -/
def accepts (s : Scanner) (w : Workspace) (found : Found) : Bool :=
  s.findsFile w found && s.passes ("/".intercalate found.names)

/-- Whether something found is a directory whose path is too long for the walk to open it. -/
def outOfReach (s : Scanner) (found : Found) : Bool :=
  decide (found.node = .directory ∧ pathLimit ≤ (s.pathOf found).text.utf8ByteSize)

/-- The walk can open every directory beneath the root. -/
def Walks (s : Scanner) (w : Workspace) : Prop :=
  ∀ found ∈ w.listing s.root, s.outOfReach found = false

instance (s : Scanner) (w : Workspace) : Decidable (s.Walks w) :=
  inferInstanceAs (Decidable (∀ found ∈ w.listing s.root, s.outOfReach found = false))

/-- Something found as a document. -/
def documentAt (s : Scanner) (found : Found) : DocumentFile :=
  ⟨s.pathOf found, Text.replaceChar '\\' '/' ("/".intercalate found.names)⟩

/-- The documents beneath the root in the order of their paths from there. -/
def accepted (s : Scanner) (w : Workspace) : List DocumentFile :=
  (((w.listing s.root).filter (s.accepts w)).map s.documentAt).mergeSort fun a b =>
    decide (a.relative ≤ b.relative)

variable {s : Scanner} {w : Workspace} {loc : Location} {found : Found} {listing : List Found}

theorem mem_accepted {file : DocumentFile} :
    file ∈ s.accepted w ↔
      ∃ found ∈ w.listing s.root, s.accepts w found = true ∧ s.documentAt found = file := by
  rw [accepted, List.mem_mergeSort, List.mem_map]
  simp only [List.mem_filter, and_assoc]

/-! ### The order of documents -/

/-- Documents in the order of their paths from the root. -/
def sorted (files : List DocumentFile) : List DocumentFile :=
  files.mergeSort fun a b => decide (a.relative ≤ b.relative)

theorem accepted_eq_sorted :
    s.accepted w = sorted (((w.listing s.root).filter (s.accepts w)).map s.documentAt) := rfl

theorem sorted_perm (files : List DocumentFile) : (sorted files).Perm files :=
  List.mergeSort_perm _ _

theorem relative_trans (a b c : DocumentFile) (below : decide (a.relative ≤ b.relative) = true)
    (below' : decide (b.relative ≤ c.relative) = true) : decide (a.relative ≤ c.relative) = true :=
  decide_eq_true (String.le_trans (of_decide_eq_true below) (of_decide_eq_true below'))

theorem relative_total (a b : DocumentFile) :
    (decide (a.relative ≤ b.relative) || decide (b.relative ≤ a.relative)) = true := by
  simpa using String.le_total a.relative b.relative

theorem pairwise_sorted (files : List DocumentFile) :
    (sorted files).Pairwise fun a b => a.relative ≤ b.relative := by
  have ordered := List.pairwise_mergeSort relative_trans relative_total files
  exact ordered.imp of_decide_eq_true

/-! ### The listing -/

theorem exists_lookup_of_isDirectory {p : Path} (h : w.isDirectory p = true) :
    ∃ loc, w.lookup p = .ok (loc, .directory) := by
  unfold Workspace.isDirectory at h
  split at h
  next loc found => exact ⟨loc, found⟩
  · cases h

theorem isDirectory_of_lookup {p : Path} (directory : w.lookup p = .ok (loc, .directory)) :
    w.isDirectory p = true := by
  rw [Workspace.isDirectory, directory]

theorem exists_lookup_of_mem_listing {root : Path} (h : found ∈ w.listing root) :
    ∃ loc, w.lookup root = .ok (loc, .directory) := by
  unfold Workspace.listing at h
  dsimp only at h
  split at h
  next loc directory => exact ⟨loc, directory⟩
  · cases h

/-- What a listing of a directory finds lies beneath it, except for the root itself if it is a
link. -/
theorem mem_listing {root : Path} (directory : w.lookup root = .ok (loc, .directory))
    (h : found ∈ w.listing root) :
    (found.names, found.node) ∈ w.tree.beneath loc ∨ found = ⟨[], .link root.text⟩ := by
  unfold Workspace.listing at h
  simp only [directory] at h
  rcases List.mem_append.mp h with link | below
  · split at link
    · exact .inr (List.mem_singleton.mp link)
    · cases link
  · obtain ⟨⟨names, node⟩, listed, rfl⟩ := List.mem_map.mp below
    exact .inl listed

theorem mem_listing_of_mem_beneath {root : Path} {names : List String} {node : Node}
    (directory : w.lookup root = .ok (loc, .directory)) (h : (names, node) ∈ w.tree.beneath loc) :
    ⟨names, node⟩ ∈ w.listing root := by
  unfold Workspace.listing
  simp only [directory]
  exact List.mem_append_right _ (List.mem_map.mpr ⟨(names, node), h, rfl⟩)

theorem pathOf_eq {names : List String} (more : names ≠ []) (node : Node) :
    s.pathOf ⟨names, node⟩ = s.root.join ⟨"/".intercalate names⟩ := by
  simp [pathOf, more]

/-- The path of something found that is no link leads to it, unless it is too long. -/
theorem lookup_pathOf {names : List String} {node : Node} (noLink : ∀ target, node ≠ .link target)
    (listed : ⟨names, node⟩ ∈ w.listing s.root) :
    ∃ loc, w.lookup (s.pathOf ⟨names, node⟩) =
      if pathLimit ≤ (s.pathOf ⟨names, node⟩).text.utf8ByteSize then .error .nameTooLong
      else .ok (loc ++ names, node) := by
  obtain ⟨loc, directory⟩ := exists_lookup_of_mem_listing listed
  refine ⟨loc, ?_⟩
  rcases mem_listing directory listed with beneath | root
  · rw [pathOf_eq (FileTree.mem_beneath beneath).1]
    exact Workspace.lookup_join beneath noLink directory
  · exact absurd (congrArg Found.node root) (noLink _)

/-! ### Scanning -/

theorem result_accept (path : Path) (relative : String) :
    (s.accept path relative).result = .ok
      (if s.passes relative then [⟨path, Text.replaceChar '\\' '/' relative⟩] else []) := by
  unfold accept passes
  cases s.documents.isMatch relative
  · rfl
  · cases s.excludes.any fun glob => glob.isMatch relative <;> rfl

/-- The walk fails at a directory that is out of reach, and goes on at anything else. -/
theorem result_classify (listed : found ∈ w.listing s.root) :
    (s.classify w found).result =
      if s.outOfReach found then .error (walkFailure (s.pathOf found) .nameTooLong)
      else .ok (if s.accepts w found then [s.documentAt found] else []) := by
  obtain ⟨names, node⟩ := found
  cases node with
  | directory =>
    have noLink : ∀ target, Node.directory ≠ .link target := by simp
    obtain ⟨loc, leads⟩ := lookup_pathOf noLink listed
    by_cases long : pathLimit ≤ (s.pathOf ⟨names, .directory⟩).text.utf8ByteSize
    · rw [if_pos long] at leads
      simp only [classify, enter, leads, outOfReach, long, and_self, decide_true, if_true]
      rfl
    · rw [if_neg long] at leads
      simp only [classify, enter, leads, outOfReach, long, and_false, decide_false]
      rfl
  | file content => exact result_accept _ _
  -- A link that is skipped is reported, and gives no document.
  | link target =>
    cases leads : w.isFile (s.pathOf ⟨names, .link target⟩) with
    | true =>
      simp only [classify, accepts, findsFile, leads, if_true, Bool.true_and]
      exact result_accept _ _
    | false =>
      simp only [classify, accepts, findsFile, leads, Bool.false_and]
      rfl

theorem result_documentsIn (within : listing ⊆ w.listing s.root) :
    (s.documentsIn w listing).result = match listing.find? s.outOfReach with
      | some found => .error (walkFailure (s.pathOf found) .nameTooLong)
      | none => .ok (sorted ((listing.filter (s.accepts w)).map s.documentAt)) := by
  have classified := (result_mapM (s.classify w) listing).trans
    (mapM_ite_error fun found listed => result_classify (within listed))
  have flat : ∀ listing : List Found, (listing.map fun found =>
      if s.accepts w found then [s.documentAt found] else []).flatten =
      (listing.filter (s.accepts w)).map s.documentAt := by
    intro listing
    induction listing with
    | nil => rfl
    | cons found listing ih =>
      rw [List.map_cons, List.flatten_cons, ih, List.filter_cons]
      split <;> rfl
  unfold documentsIn
  cases first : listing.find? s.outOfReach with
  | some found =>
    rw [first] at classified
    exact result_bind_of_error classified _
  | none =>
    rw [first] at classified
    rw [result_bind_of_ok classified, flat]
    rfl

/-- Why a scan fails, if it does: its root is no directory, or else one beneath it cannot be opened. -/
def obstacle (s : Scanner) (w : Workspace) : Option Failure :=
  if w.isDirectory s.root then
    ((w.listing s.root).find? s.outOfReach).map fun found =>
      walkFailure (s.pathOf found) .nameTooLong
  else some (.notFound s.root)

theorem result_scan (s : Scanner) (w : Workspace) :
    (s.scan w).result = match s.obstacle w with
      | some failure => .error failure
      | none => .ok (s.accepted w) := by
  unfold scan obstacle
  cases w.isDirectory s.root with
  | false => rfl
  | true =>
    refine (result_bind_of_ok rfl _).trans ((result_documentsIn (List.Subset.refl _)).trans ?_)
    cases (w.listing s.root).find? s.outOfReach <;> rfl

theorem obstacle_eq_none_iff : s.obstacle w = none ↔ w.isDirectory s.root = true ∧ s.Walks w := by
  unfold obstacle Walks
  cases w.isDirectory s.root <;> simp

theorem scan_eq_ok_iff {files : List DocumentFile} :
    (s.scan w).result = .ok files ↔
      (w.isDirectory s.root = true ∧ s.Walks w) ∧ s.accepted w = files := by
  rw [result_scan, ← obstacle_eq_none_iff]
  cases s.obstacle w <;> simp

/-- A root that is named by a link is listed too, but it is a directory and so no document. -/
theorem accepts_rootLink (directory : w.lookup s.root = .ok (loc, .directory)) (target : String) :
    s.accepts w ⟨[], .link target⟩ = false := by
  have same : s.pathOf ⟨[], .link target⟩ = s.root := rfl
  have noFile : w.isFile s.root = false := by rw [Workspace.isFile, directory]
  rw [accepts, findsFile, same, noFile, Bool.false_and]

theorem mem_beneath_of_accepts (directory : w.lookup s.root = .ok (loc, .directory))
    (listed : found ∈ w.listing s.root) (accepted : s.accepts w found = true) :
    (found.names, found.node) ∈ w.tree.beneath loc := by
  rcases mem_listing directory listed with beneath | rfl
  · exact beneath
  · rw [accepts_rootLink directory] at accepted
    cases accepted

/-- The path of a document that a scan finds leads to a file, unless it is too long. -/
theorem lookup_of_mem_accepted {file : DocumentFile} (root : w.isDirectory s.root = true)
    (h : file ∈ s.accepted w) :
    if pathLimit ≤ file.path.text.utf8ByteSize then w.lookup file.path = .error .nameTooLong
    else ∃ loc content, w.lookup file.path = .ok (loc, .file content) := by
  obtain ⟨found, listed, accepted, rfl⟩ := mem_accepted.mp h
  obtain ⟨loc, directory⟩ := exists_lookup_of_isDirectory root
  have finds : s.findsFile w found = true := (Bool.and_eq_true_iff.mp accepted).1
  change if pathLimit ≤ (s.pathOf found).text.utf8ByteSize then
    w.lookup (s.pathOf found) = _ else ∃ loc content, w.lookup (s.pathOf found) = _
  have beneath := mem_beneath_of_accepts directory listed accepted
  obtain ⟨names, node⟩ := found
  have more := (FileTree.mem_beneath beneath).1
  cases node with
  | directory => cases finds
  | file content =>
    rw [pathOf_eq more, Workspace.lookup_join beneath (fun _ => nofun) directory]
    split
    · rfl
    · exact ⟨_, _, rfl⟩
  -- A link was already followed when it was found to lead to a file.
  | link target =>
    obtain ⟨loc', content, leads⟩ := Workspace.isFile_iff.mp finds
    obtain ⟨sound, _⟩ := Workspace.lookup_eq_ok_iff.mp leads
    have short := (Workspace.checkText_eq_ok_iff.mp sound).2.2
    rw [if_neg (by omega)]
    exact ⟨loc', content, leads⟩

end Scanner

end SpecPrompt
