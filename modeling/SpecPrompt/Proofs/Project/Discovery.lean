import SpecPrompt.Proofs.Files.Resolving
import SpecPrompt.Proofs.Project.Addition

/-!
# What lies beneath a root

A scan goes through everything beneath its root, into hidden directories too, and along no link. What it
finds is said here of the tree alone: the files and the links to files whose names from the root match the
glob for documents and none that leaves them out. What files hold does not matter for it, so nor does any
list of files to ignore.

A link is followed at its path. So it is passed over if that path is longer than the system takes, or if
there are more links on the way than it follows, although the link may lead to a file. A directory is
opened by its path, and there a path that is too long is a failure.

## Main result

`scan_exact`: the documents that a scan finds.
-/

namespace SpecPrompt

namespace FileTree

variable {t : FileTree} {loc : Location} {names : List String} {node : Node}

/-- The names lead from a directory to the node, through directories and along no link. -/
inductive LiesBeneath (t : FileTree) : Location → List String → Node → Prop
  | entry {loc : Location} {name : String} {node : Node}
      (found : t.nodes.get? (loc ++ [name]) = some node) : LiesBeneath t loc [name] node
  | within {loc : Location} {name : String} {names : List String} {node : Node}
      (directory : t.nodes.get? (loc ++ [name]) = some .directory)
      (rest : LiesBeneath t (loc ++ [name]) names node) : LiesBeneath t loc (name :: names) node

theorem LiesBeneath.get? (h : t.LiesBeneath loc names node) :
    names ≠ [] ∧ t.nodes.get? (loc ++ names) = some node := by
  induction h with
  | entry found => exact ⟨by simp, found⟩
  | within directory _ ih => exact ⟨by simp, by simpa using ih.2⟩

theorem liesBeneath_of_get? (more : names ≠ []) (found : t.nodes.get? (loc ++ names) = some node) :
    t.LiesBeneath loc names node := by
  induction names generalizing loc with
  | nil => exact absurd rfl more
  | cons name names ih =>
    rw [List.append_cons] at found
    cases names with
    | nil => exact .entry (by simpa using found)
    | cons name' names =>
      -- Something lies beneath the first name, so it leads to a directory.
      have above := isDirectoryIn_above found (by simp)
      exact .within (above.resolve_left (by simp)) (ih (by simp) found)

end FileTree

namespace Workspace

variable {w w' : Workspace} {loc : Location}

/-- The two hold the same but for the content of files. -/
def SameButContent (w w' : Workspace) : Prop :=
  w'.here = w.here ∧
    ∀ loc, (w'.tree.nodes.get? loc).map Node.emptied = (w.tree.nodes.get? loc).map Node.emptied

theorem SameButContent.refl (w : Workspace) : w.SameButContent w :=
  ⟨rfl, fun _ => rfl⟩

theorem SameButContent.symm (same : w.SameButContent w') : w'.SameButContent w :=
  ⟨same.1.symm, fun loc => (same.2 loc).symm⟩

theorem SameButContent.retains (same : w.SameButContent w') : w.Retains w' where
  here_eq := same.1
  tree := by
    intro loc node found
    rw [same.2 loc, found]
    rfl

theorem SameButContent.isFile_eq (same : w.SameButContent w') (p : Path) : w'.isFile p = w.isFile p := by
  have keeps : ∀ {w w' : Workspace}, w.Retains w' → w.isFile p = true → w'.isFile p = true := by
    intro w w' retains holds
    obtain ⟨loc, content, leads⟩ := isFile_iff.mp holds
    obtain ⟨content', -, leads'⟩ := retains.lookup_file leads
    exact isFile_iff.mpr ⟨loc, content', leads'⟩
  rw [Bool.eq_iff_iff]
  exact ⟨keeps same.symm.retains, keeps same.retains⟩

theorem SameButContent.lookup_directory (same : w.SameButContent w') {p : Path}
    (directory : w.lookup p = .ok (loc, .directory)) : w'.lookup p = .ok (loc, .directory) := by
  obtain ⟨sound, arrives, there⟩ := lookup_eq_ok_iff.mp directory
  have inside := same.retains.tree.isDirectoryIn (FileTree.isDirectoryIn_of_node? there)
  refine lookup_eq_ok_iff.mpr ⟨sound, ?_, FileTree.node?_of_isDirectoryIn inside⟩
  rw [same.1]
  exact same.retains.tree.follow_eq_ok arrives

end Workspace

/-- The path matches the glob that the pattern writes down. -/
def Matches (pattern relative : String) : Prop :=
  ∃ glob, readGlob pattern = .ok glob ∧ glob.isMatch relative = true

namespace Scanner

variable {s : Scanner} {w w' : Workspace} {settings : Settings} {loc : Location}
  {names : List String} {file : DocumentFile}

/-! ### Files and links to files -/

/-- Beneath the root stands a file, or a link that leads to one. The link is followed at its path, which
has to be short enough for it, and the links on the way to the root count as well. -/
inductive HoldsFile (w : Workspace) (root : Path) (loc : Location) (names : List String) : Prop
  | file {content : ByteArray} (lies : w.tree.LiesBeneath loc names (.file content))
  | link {text : String} {m n : Nat} {there : Location} {content : ByteArray}
      (lies : w.tree.LiesBeneath loc names (.link text))
      (short : (root.join ⟨"/".intercalate names⟩).text.utf8ByteSize < pathLimit)
      (way : w.tree.Resolves m (startOf w.here root.text) (stepsOf root.text) loc)
      (onward : w.tree.Resolves n loc names there) (few : m + n ≤ linkLimit)
      (leads : w.tree.nodes.get? there = some (.file content))

theorem isName_of_get? {node : Node} (found : w.tree.nodes.get? (loc ++ names) = some node) :
    ∀ name ∈ names, IsName name :=
  fun name listed => w.tree.named _ _ found name (List.mem_append_right _ listed)

theorem holdsFile_iff (directory : w.lookup s.root = .ok (loc, .directory)) :
    HoldsFile w s.root loc names ↔ ∃ node, names ≠ [] ∧
      w.tree.nodes.get? (loc ++ names) = some node ∧ s.findsFile w ⟨names, node⟩ = true := by
  constructor
  · intro holds
    cases holds with
    | file lies =>
      obtain ⟨more, found⟩ := lies.get?
      exact ⟨_, more, found, rfl⟩
    | link lies short way onward few leads =>
      obtain ⟨more, found⟩ := lies.get?
      refine ⟨_, more, found, ?_⟩
      rw [findsFile, pathOf_eq more]
      exact (Workspace.isFile_join_iff_resolves directory more (isName_of_get? found)).mpr
        ⟨short, _, _, _, _, way, onward, few, leads⟩
  -- A link counts if the system finds a file at its path, and a file counts by itself.
  · rintro ⟨node, more, found, finds⟩
    have lies := FileTree.liesBeneath_of_get? more found
    cases node with
    | directory => cases finds
    | file content => exact .file lies
    | link text =>
      rw [findsFile, pathOf_eq more] at finds
      obtain ⟨short, _, _, _, _, way, onward, few, leads⟩ :=
        (Workspace.isFile_join_iff_resolves directory more (isName_of_get? found)).mp finds
      exact .link lies short way onward few leads

theorem documentOf_append_eq_some_iff (more : names ≠ []) {node : Node} :
    s.documentOf w loc (loc ++ names, node) = some file ↔
      (s.findsFile w ⟨names, node⟩ = true ∧ s.passes ("/".intercalate names) = true) ∧
        file = ⟨s.root.join ⟨"/".intercalate names⟩,
          Text.replaceChar '\\' '/' ("/".intercalate names)⟩ := by
  rw [documentOf_append more, documentAt, pathOf_eq more, ← Bool.and_eq_true_iff]
  split
  next accepted => simp [show (_ && _) = true from accepted, eq_comm]
  next refused => simp [show ¬ (_ && _) = true from refused]

theorem mem_accepted_iff (directory : w.lookup s.root = .ok (loc, .directory)) :
    file ∈ s.accepted w ↔ ∃ names, HoldsFile w s.root loc names ∧
      s.passes ("/".intercalate names) = true ∧
      file = ⟨s.root.join ⟨"/".intercalate names⟩, Text.replaceChar '\\' '/' ("/".intercalate names)⟩ := by
  rw [accepted_eq directory, (sorted_perm _).mem_iff, List.mem_filterMap]
  constructor
  · rintro ⟨⟨place, node⟩, listed, same⟩
    obtain ⟨names, more, rfl⟩ : ∃ names, names ≠ [] ∧ place = loc ++ names := exists_of_documentOf same
    obtain ⟨⟨finds, passes⟩, same⟩ := (documentOf_append_eq_some_iff more).mp same
    have found := SortedMap.mem_toList_iff.mp listed
    exact ⟨names, (holdsFile_iff directory).mpr ⟨node, more, found, finds⟩, passes, same⟩
  · rintro ⟨names, holds, passes, same⟩
    obtain ⟨node, more, found, finds⟩ := (holdsFile_iff directory).mp holds
    exact ⟨(loc ++ names, node), SortedMap.mem_toList_iff.mpr found,
      (documentOf_append_eq_some_iff more).mpr ⟨⟨finds, passes⟩, same⟩⟩

/-! ### Globs -/

theorem matches_iff {pattern relative : String} {glob : Glob} (read : readGlob pattern = .ok glob) :
    Matches pattern relative ↔ glob.isMatch relative = true := by
  simp [Matches, read]

theorem forall_not_matches_iff {patterns : List String} {globs : List Glob} {relative : String}
    (read : patterns.mapM readGlob = .ok globs) :
    (∀ pattern ∈ patterns, ¬ Matches pattern relative) ↔
      ∀ glob ∈ globs, ¬ glob.isMatch relative = true := by
  have each := Outcome.mapM_eq_ok_iff.mp read
  clear read
  induction each with
  | nil => simp
  | cons read _ ih => simp [ih, matches_iff read]

theorem passes_iff (asked : ofSettings w settings = .ok s) {relative : String} :
    s.passes relative = true ↔ Matches ("**/*." ++ settings.extension) relative ∧
      ∀ pattern ∈ settings.excludes, ¬ Matches pattern relative := by
  obtain ⟨-, documents, reads, -⟩ := ofSettings_eq_ok_iff.mp asked
  obtain ⟨read, -⟩ := documentGlob_eq_ok_iff.mp documents
  rw [matches_iff read, forall_not_matches_iff reads, passes]
  simp

/-! ### Each document once -/

theorem root_ne_empty {node : Node} (leads : w.lookup s.root = .ok (loc, node)) : s.root.text ≠ "" :=
  (Workspace.checkText_eq_ok_iff.mp (Workspace.lookup_eq_ok_iff.mp leads).1).1

theorem join_injective (directory : w.lookup s.root = .ok (loc, .directory)) {names names' : List String}
    (more : names ≠ []) (more' : names' ≠ []) (valid : ∀ name ∈ names, IsName name)
    (valid' : ∀ name ∈ names', IsName name)
    (same : s.root.join ⟨"/".intercalate names⟩ = s.root.join ⟨"/".intercalate names'⟩) :
    names = names' := by
  have filled := root_ne_empty directory
  have steps := Workspace.stepsOf_join filled more valid
  rw [same, Workspace.stepsOf_join filled more' valid'] at steps
  exact (List.append_cancel_left steps).symm

theorem nodup_paths_accepted (directory : w.lookup s.root = .ok (loc, .directory)) :
    ((s.accepted w).map DocumentFile.path).Nodup := by
  rw [accepted_eq directory, ((sorted_perm _).map _).nodup_iff, List.Nodup, List.pairwise_map,
    List.pairwise_filterMap]
  have keys := w.tree.nodes.nodup_keys
  rw [List.Nodup, List.pairwise_map] at keys
  refine keys.imp_of_mem ?_
  -- The entries have different names from the root, and the path gives the names back.
  rintro ⟨place, node⟩ ⟨place', node'⟩ listed listed' apart file found file' found' same
  obtain ⟨names, more, rfl⟩ : ∃ names, names ≠ [] ∧ place = loc ++ names := exists_of_documentOf found
  obtain ⟨names', more', rfl⟩ : ∃ names', names' ≠ [] ∧ place' = loc ++ names' :=
    exists_of_documentOf found'
  rw [((documentOf_append_eq_some_iff more).mp found).2,
    ((documentOf_append_eq_some_iff more').mp found').2] at same
  have names_eq := join_injective directory more more'
    (isName_of_get? (SortedMap.mem_toList_iff.mp listed))
    (isName_of_get? (SortedMap.mem_toList_iff.mp listed')) same
  exact apart (by rw [names_eq])

/-! ### What files hold -/

theorem accepts_of_sameButContent (same : w.SameButContent w') (names : List String) (node : Node) :
    s.accepts w' ⟨names, node⟩ = s.accepts w ⟨names, node.emptied⟩ := by
  cases node with
  | file content => rfl
  | directory => rfl
  | link text => simp only [accepts, findsFile, Node.emptied, same.isFile_eq]

/-- Whether an entry is a document does not depend on what files hold. -/
theorem documentOf_of_sameButContent (same : w.SameButContent w') (entry : Location × Node) :
    s.documentOf w' loc entry = s.documentOf w loc (entry.1, entry.2.emptied) := by
  simp only [documentOf, accepts_of_sameButContent same]
  rfl

theorem accepted_eq_of_sameButContent (same : w.SameButContent w')
    (directory : w.lookup s.root = .ok (loc, .directory)) : s.accepted w' = s.accepted w := by
  have emptied : w'.tree.nodes.mapValues Node.emptied = w.tree.nodes.mapValues Node.emptied := by
    apply SortedMap.ext_get?
    intro place
    rw [SortedMap.get?_mapValues, SortedMap.get?_mapValues, same.2]
  have documents : ∀ {v : Workspace}, w.SameButContent v →
      v.tree.nodes.toList.filterMap (s.documentOf v loc) =
        (v.tree.nodes.mapValues Node.emptied).toList.filterMap (s.documentOf w loc) := by
    intro v alike
    rw [SortedMap.toList_mapValues, List.filterMap_map]
    exact List.filterMap_congr fun entry _ => documentOf_of_sameButContent alike entry
  rw [accepted_eq directory, accepted_eq (same.lookup_directory directory), documents same,
    documents (.refl w), emptied]

/-! ### The scan -/

/-- Every directory beneath the root has a path that is short enough to open it. -/
def Opens (w : Workspace) (root : Path) (loc : Location) : Prop :=
  ∀ names, w.tree.LiesBeneath loc names .directory →
    (root.join ⟨"/".intercalate names⟩).text.utf8ByteSize < pathLimit

theorem outOfReach_iff (more : names ≠ []) :
    s.outOfReach ⟨names, .directory⟩ = true ↔
      pathLimit ≤ (s.root.join ⟨"/".intercalate names⟩).text.utf8ByteSize := by
  rw [outOfReach, pathOf_eq more]
  simp

theorem mem_listing_iff (directory : w.lookup s.root = .ok (loc, .directory)) :
    ⟨names, .directory⟩ ∈ w.listing s.root ↔ w.tree.LiesBeneath loc names .directory := by
  constructor
  · intro listed
    rcases mem_listing directory listed with beneath | root
    · obtain ⟨more, found⟩ := FileTree.mem_beneath beneath
      exact FileTree.liesBeneath_of_get? more found
    · cases congrArg Found.node root
  · intro lies
    obtain ⟨more, found⟩ := lies.get?
    exact mem_listing_of_mem_beneath directory (FileTree.mem_beneath_of_get? more found)

theorem walks_iff (directory : w.lookup s.root = .ok (loc, .directory)) :
    s.Walks w ↔ Opens w s.root loc := by
  constructor
  · intro walks names lies
    have reached := walks _ ((mem_listing_iff directory).mpr lies)
    rw [← Bool.not_eq_true, outOfReach_iff lies.get?.1] at reached
    exact Nat.lt_of_not_le reached
  · rintro opens ⟨names, node⟩ listed
    by_contra closed
    rw [Bool.not_eq_false] at closed
    obtain ⟨rfl, long⟩ := of_decide_eq_true closed
    have lies := (mem_listing_iff directory).mp listed
    rw [outOfReach_iff lies.get?.1] at closed
    exact absurd closed (Nat.not_le.mpr (opens names lies))

/-- Whether directories can be opened does not depend on what files hold. -/
theorem Opens.of_sameButContent {root : Path} (opens : Opens w root loc) (same : w.SameButContent w') :
    Opens w' root loc := by
  intro names lies
  obtain ⟨more, found⟩ := lies.get?
  have inside := same.symm.retains.tree.isDirectoryIn (.inr found)
  exact opens names (FileTree.liesBeneath_of_get? more (inside.resolve_left (by simp [more])))

theorem result_scan_of_walks (directory : w.lookup s.root = .ok (loc, .directory)) (walks : s.Walks w) :
    (s.scan w).result = .ok (s.accepted w) :=
  scan_eq_ok_iff.mpr ⟨⟨isDirectory_of_lookup directory, walks⟩, rfl⟩

/-- A scan that cannot open some directory fails at one of those. -/
theorem exists_result_scan_of_long (directory : w.lookup s.root = .ok (loc, .directory))
    (closed : ¬ Opens w s.root loc) :
    ∃ names, w.tree.LiesBeneath loc names .directory ∧
      pathLimit ≤ (s.root.join ⟨"/".intercalate names⟩).text.utf8ByteSize ∧
      (s.scan w).result =
        .error (walkFailure (s.root.join ⟨"/".intercalate names⟩) .nameTooLong) := by
  have ends := s.result_scan w
  rw [obstacle, if_pos (isDirectory_of_lookup directory)] at ends
  cases first : (w.listing s.root).find? s.outOfReach with
  | none =>
    refine absurd ((walks_iff directory).mp fun found listed => ?_) closed
    simpa using List.find?_eq_none.mp first found listed
  | some found =>
    obtain ⟨names, node⟩ := found
    have long := List.find?_some first
    obtain ⟨rfl, -⟩ := of_decide_eq_true long
    have lies := (mem_listing_iff directory).mp (List.mem_of_find?_eq_some first)
    refine ⟨names, lies, (outOfReach_iff lies.get?.1).mp long, ?_⟩
    rw [ends, first, Option.map_some, pathOf_eq lies.get?.1]

/-- A scan of a directory finds each document once, in the order of the paths from there: the files at
any depth and the links to files, if their paths match the glob for documents and none that leaves them
out. What files hold does not matter. It fails only if there is a directory that it cannot open. -/
theorem scan_exact (asked : ofSettings w settings = .ok s)
    (directory : w.lookup s.root = .ok (loc, .directory)) :
    (Opens w s.root loc → ∃ files, (s.scan w).result = .ok files ∧
      files.Pairwise (fun a b => a.relative ≤ b.relative) ∧ (files.map DocumentFile.path).Nodup ∧
      (∀ file, file ∈ files ↔ ∃ names, HoldsFile w s.root loc names ∧
        Matches ("**/*." ++ settings.extension) ("/".intercalate names) ∧
        (∀ pattern ∈ settings.excludes, ¬ Matches pattern ("/".intercalate names)) ∧
        file = ⟨s.root.join ⟨"/".intercalate names⟩,
          Text.replaceChar '\\' '/' ("/".intercalate names)⟩) ∧
      ∀ w', w.SameButContent w' → (s.scan w').result = .ok files) ∧
    (¬ Opens w s.root loc → ∃ names, w.tree.LiesBeneath loc names .directory ∧
      pathLimit ≤ (s.root.join ⟨"/".intercalate names⟩).text.utf8ByteSize ∧
      (s.scan w).result =
        .error (walkFailure (s.root.join ⟨"/".intercalate names⟩) .nameTooLong)) := by
  refine ⟨fun opens => ?_, exists_result_scan_of_long directory⟩
  have walks := (walks_iff directory).mpr opens
  refine ⟨s.accepted w, result_scan_of_walks directory walks, ?_, nodup_paths_accepted directory, ?_, ?_⟩
  · rw [accepted_eq_sorted]
    exact pairwise_sorted _
  · intro file
    rw [mem_accepted_iff directory]
    simp only [passes_iff asked, and_assoc]
  · intro w' same
    have directory' := same.lookup_directory directory
    rw [result_scan_of_walks directory' ((walks_iff directory').mpr (opens.of_sameButContent same)),
      accepted_eq_of_sameButContent same directory]

/-! ### A project with hidden documents -/

/-- A project at `/p` with a document in a hidden directory and a list that ignores all files. There are
links to the document, to nothing, and to the directory. -/
def hiddenTest : Workspace :=
  let tree := (FileTree.empty.place ["p"] .directory).place ["p", ".h"] .directory
  let tree := tree.place ["p", ".h", "a.lnegc"] (.file .empty)
  let tree := tree.place ["p", ".gitignore"] (.file ⟨#[42]⟩)
  let tree := tree.place ["p", "b.lnegc"] (.link ".h/a.lnegc")
  let tree := tree.place ["p", "c.lnegc"] (.link "none")
  ⟨tree.place ["p", "d.lnegc"] (.link ".h"), []⟩

theorem sameButContent_hiddenTest :
    hiddenTest.SameButContent (hiddenTest.place ["p", ".gitignore"] (.file .empty)) := by
  have room : hiddenTest.tree.HasRoom ["p", ".gitignore"] := by decide +kernel
  have before : hiddenTest.tree.nodes.get? ["p", ".gitignore"] = some (.file ⟨#[42]⟩) := by
    decide +kernel
  refine ⟨rfl, fun loc => ?_⟩
  have there := FileTree.get?_place room (.file .empty) loc
  rw [show (hiddenTest.place ["p", ".gitignore"] (.file .empty)).tree =
    hiddenTest.tree.place ["p", ".gitignore"] (.file .empty) from rfl, there]
  split
  next same =>
    rw [same, before]
    rfl
  · rfl

/-- The document and the link to it are found, whatever is to be ignored. -/
theorem scan_exact_hiddenTest :
    ∃ s loc files, ofSettings hiddenTest (settingsAt ⟨"/p"⟩) = .ok s ∧
      hiddenTest.lookup s.root = .ok (loc, .directory) ∧ Opens hiddenTest s.root loc ∧
      (s.scan hiddenTest).result = .ok files ∧
      (files.map DocumentFile.relative).Perm [".h/a.lnegc", "b.lnegc"] ∧
      (s.scan (hiddenTest.place ["p", ".gitignore"] (.file .empty))).result = .ok files := by
  obtain ⟨s, asked, holds, walks, found⟩ := Outcome.exists_ok_of_decide
    (x := ofSettings hiddenTest (settingsAt ⟨"/p"⟩))
    (p := fun s => hiddenTest.isDirectory s.root = true ∧ s.Walks hiddenTest ∧
      (((hiddenTest.listing s.root).filter (s.accepts hiddenTest)).map s.documentAt).map
        DocumentFile.relative = [".h/a.lnegc", "b.lnegc"])
    (by decide +kernel)
  obtain ⟨loc, directory⟩ := exists_lookup_of_isDirectory holds
  have opens := (walks_iff directory).mp walks
  obtain ⟨files, scanned, -, -, -, steady⟩ := (scan_exact asked directory).1 opens
  have relatives : (files.map DocumentFile.relative).Perm [".h/a.lnegc", "b.lnegc"] := by
    rw [result_scan_of_walks directory walks] at scanned
    rw [← Except.ok.inj scanned, accepted_eq_sorted, ← found]
    exact (sorted_perm _).map _
  exact ⟨s, loc, files, asked, directory, opens, scanned, relatives,
    steady _ sameButContent_hiddenTest⟩

/-! ### A link with a long path -/

/-- A link to a file is passed over where the root is spelled so long that the link's path is too long to
be followed. -/
theorem scan_longRoot :
    ∃ s files, ofSettings linkedTest (settingsAt longRoot) = .ok s ∧
      linkedTest.lookup s.root = .ok (["p"], .directory) ∧
      linkedTest.tree.LiesBeneath ["p"] ["components", "x.lnegc"] (.link "../tests/y.lnegc") ∧
      (∃ n ≤ linkLimit, linkedTest.tree.Resolves n ["p"] ["components", "x.lnegc"]
        ["p", "tests", "y.lnegc"]) ∧
      linkedTest.tree.nodes.get? ["p", "tests", "y.lnegc"] = some (.file .empty) ∧
      Matches ("**/*." ++ (settingsAt longRoot).extension) "components/x.lnegc" ∧
      (settingsAt longRoot).excludes = [] ∧ (s.scan linkedTest).result = .ok files ∧
      ∀ file ∈ files, file.path ≠ s.root.join ⟨"components/x.lnegc"⟩ := by
  have top : linkedTest.tree.nodes.get? ["p"] = some .directory := by decide +kernel
  have link : linkedTest.tree.nodes.get? (["p"] ++ ["components", "x.lnegc"]) =
      some (.link "../tests/y.lnegc") := by
    decide +kernel
  have way : ∃ n ≤ linkLimit, linkedTest.tree.Resolves n ["p"] ["components", "x.lnegc"]
      ["p", "tests", "y.lnegc"] :=
    FileTree.follow_iff_resolves.mp (by decide +kernel)
  obtain ⟨glob, read, matching⟩ : ∃ glob, readGlob ("**/*." ++ "lnegc") = .ok glob ∧
      glob.isMatch "components/x.lnegc" = true :=
    Outcome.exists_ok_of_decide (by cbv)
  obtain ⟨c, prepared, -, root, -⟩ := exists_prepared_longRoot top (settingsAt longRoot).output
  have asked := (Compiler.of_prepare_eq_ok prepared).2.1
  have directory : linkedTest.lookup c.scanner.root = .ok (["p"], .directory) := by
    rw [root]
    exact lookup_longRoot top
  refine ⟨c.scanner, _, asked, directory, FileTree.liesBeneath_of_get? (by simp) link, way,
    by decide +kernel, ⟨glob, read, matching⟩, rfl,
    result_scan_of_walks directory (walks_longRoot top root (by decide +kernel)), ?_⟩
  rintro file listed same
  obtain ⟨names, holds, -, rfl⟩ := (mem_accepted_iff directory).mp listed
  obtain ⟨node, more, found, -⟩ := (holdsFile_iff directory).mp holds
  have spelled : "components/x.lnegc" = "/".intercalate ["components", "x.lnegc"] := by decide
  have valid : ∀ name ∈ ["components", "x.lnegc"], IsName name := by decide
  rw [spelled] at same
  obtain rfl := join_injective directory more (by simp) (isName_of_get? found) valid same
  cases holds with
  | file lies =>
    rw [lies.get?.2] at link
    cases link
  | link lies short =>
    rw [root, join_longRoot valid, String.utf8ByteSize_append, String.utf8ByteSize_append, size_longRoot,
      ← spelled] at short
    exact absurd short (by decide)

end Scanner

end SpecPrompt
