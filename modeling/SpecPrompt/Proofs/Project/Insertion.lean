import Mathlib.Data.String.Basic
import SpecPrompt.Proofs.Files.Growth
import SpecPrompt.Proofs.Project.Scan

/-!
# One document more

A file added beneath the root becomes one document more, at its place in the order of the documents.
All others stay, in the order they had.

## Main result

`sortsIn_accepted`: the documents with one more among them.
-/

namespace SpecPrompt

/-! ### Lists in two parts -/

section Lists

variable {α : Type} {p : α → Bool} {l₁ l₂ l₃ l₄ : List α}

theorem filter_append_left (kept : ∀ a ∈ l₁, p a = true) (dropped : ∀ a ∈ l₂, p a = false) :
    (l₁ ++ l₂).filter p = l₁ := by
  rw [List.filter_append, List.filter_eq_self.mpr kept,
    List.filter_eq_nil_iff.mpr (by simpa using dropped), List.append_nil]

theorem filter_append_right (dropped : ∀ a ∈ l₁, p a = false) (kept : ∀ a ∈ l₂, p a = true) :
    (l₁ ++ l₂).filter p = l₂ := by
  rw [List.filter_append, List.filter_eq_self.mpr kept,
    List.filter_eq_nil_iff.mpr (by simpa using dropped), List.nil_append]

private theorem append_eq_append_of_split (same : l₁ ++ l₂ = l₃ ++ l₄)
    (h₁ : ∀ a ∈ l₁, p a = true) (h₂ : ∀ a ∈ l₂, p a = false) (h₃ : ∀ a ∈ l₃, p a = true)
    (h₄ : ∀ a ∈ l₄, p a = false) : l₁ = l₃ ∧ l₂ = l₄ := by
  have left : l₁ = l₃ := by rw [← filter_append_left h₁ h₂, same, filter_append_left h₃ h₄]
  subst left
  exact ⟨rfl, List.append_cancel_left same⟩

end Lists

namespace Scanner

variable {added : DocumentFile} {before after files files' : List DocumentFile}

/-! ### Sorting -/

/-- `files'` is `files` with `added` between those whose paths from the root are below its own and
those whose paths are above. -/
def SortsIn (added : DocumentFile) (files files' : List DocumentFile) : Prop :=
  ∃ lower upper, files = lower ++ upper ∧ files' = lower ++ added :: upper ∧
    (∀ file ∈ lower, file.relative < added.relative) ∧
    ∀ file ∈ upper, added.relative < file.relative

namespace SortsIn

variable {p : DocumentFile → Bool}

theorem mem_iff (h : SortsIn added files files') {file : DocumentFile} :
    file ∈ files' ↔ file = added ∨ file ∈ files := by
  obtain ⟨lower, upper, rfl, rfl, -, -⟩ := h
  rw [List.mem_append, List.mem_cons, List.mem_append]
  exact or_left_comm

theorem filter_of_pos (h : SortsIn added files files') (kept : p added = true) :
    SortsIn added (files.filter p) (files'.filter p) := by
  obtain ⟨lower, upper, rfl, rfl, below, above⟩ := h
  refine ⟨lower.filter p, upper.filter p, ?_, ?_, fun file listed => ?_, fun file listed => ?_⟩
  · rw [List.filter_append]
  · rw [List.filter_append, List.filter_cons_of_pos kept]
  · exact below file (List.mem_of_mem_filter listed)
  · exact above file (List.mem_of_mem_filter listed)

theorem filter_of_neg (h : SortsIn added files files') (dropped : p added = false) :
    files'.filter p = files.filter p := by
  obtain ⟨lower, upper, rfl, rfl, -, -⟩ := h
  rw [List.filter_append, List.filter_cons_of_neg (by simp [dropped]), List.filter_append]

end SortsIn

theorem sorted_cons (file : DocumentFile) (files : List DocumentFile) :
    ∃ lower upper, sorted files = lower ++ upper ∧ sorted (file :: files) = lower ++ file :: upper ∧
      (∀ other ∈ lower, decide (other.relative < file.relative) = true) ∧
      ∀ other ∈ upper, decide (other.relative < file.relative) = false := by
  obtain ⟨lower, upper, whole, rest, below⟩ :=
    List.mergeSort_cons relative_trans relative_total file files
  have ordered := pairwise_sorted (file :: files)
  rw [sorted, whole] at ordered
  refine ⟨lower, upper, rest, whole, fun other listed => ?_, fun other listed => ?_⟩
  · simpa using below other listed
  · have above := (List.pairwise_cons.mp (List.pairwise_append.mp ordered).2.1).1 other listed
    exact decide_eq_false (String.not_lt.mpr above)

-- Documents left out do not change the order of the others, because the sort is stable.
theorem filter_sorted (p : DocumentFile → Bool) (files : List DocumentFile) :
    (sorted files).filter p = sorted (files.filter p) := by
  induction files with
  | nil => simp [sorted]
  | cons file files ih =>
    obtain ⟨lower, upper, rest, whole, below, above⟩ := sorted_cons file files
    rw [rest, List.filter_append] at ih
    rw [whole, List.filter_append, List.filter_cons, List.filter_cons]
    split
    · obtain ⟨lower', upper', rest', whole', below', above'⟩ := sorted_cons file (files.filter p)
      -- The same documents are below the first one, with and without those left out.
      obtain ⟨rfl, rfl⟩ := append_eq_append_of_split (ih.trans rest')
        (fun other listed => below other (List.mem_of_mem_filter listed))
        (fun other listed => above other (List.mem_of_mem_filter listed)) below' above'
      exact whole'.symm
    · exact ih

theorem sortsIn_sorted (fresh : ∀ file ∈ before ++ after, file.relative ≠ added.relative) :
    SortsIn added (sorted (before ++ after)) (sorted (before ++ added :: after)) := by
  have perm := sorted_perm (before ++ added :: after)
  have ordered := pairwise_sorted (before ++ added :: after)
  have listed : added ∈ sorted (before ++ added :: after) := perm.mem_iff.mpr (by simp)
  obtain ⟨lower, upper, whole⟩ := List.append_of_mem listed
  rw [whole] at ordered perm
  have others : (lower ++ upper).Perm (before ++ after) :=
    (List.perm_middle.symm.trans (perm.trans List.perm_middle)).cons_inv
  have apart : ∀ file ∈ lower ++ upper, file.relative ≠ added.relative :=
    fun file member => fresh file (others.mem_iff.mp member)
  refine ⟨lower, upper, ?_, whole, fun file member => ?_, fun file member => ?_⟩
  -- Only the new document has its path, so the others are what is left without that path.
  · let p : DocumentFile → Bool := fun file => decide (file.relative ≠ added.relative)
    have keeps : ∀ files : List DocumentFile, (∀ file ∈ files, file.relative ≠ added.relative) →
        files.filter p = files := by
      intro files distinct
      exact List.filter_eq_self.mpr fun file member => decide_eq_true (distinct file member)
    have drops : ∀ l l' : List DocumentFile, (l ++ added :: l').filter p = (l ++ l').filter p := by
      intro l l'
      rw [List.filter_append, List.filter_cons_of_neg (by simp [p]), List.filter_append]
    have without := filter_sorted p (before ++ added :: after)
    rw [whole, drops, drops, keeps _ apart, keeps _ fresh] at without
    exact without.symm
  · have below := (List.pairwise_append.mp ordered).2.2 file member added (by simp)
    exact lt_of_le_of_ne below (apart file (List.mem_append_left _ member))
  · have above := (List.pairwise_cons.mp (List.pairwise_append.mp ordered).2.1).1 file member
    exact lt_of_le_of_ne above (apart file (List.mem_append_right _ member)).symm

/-! ### Listing -/

variable {s : Scanner} {w w' : Workspace} {base : Location} {names : List String}
  {content : ByteArray}

/-- The document that an entry of the tree is, if it lies beneath `base` and is one. -/
def documentOf (s : Scanner) (w : Workspace) (base : Location) (entry : Location × Node) :
    Option DocumentFile :=
  match base.isPrefixOf? entry.1 with
  | some (name :: names) =>
    if s.accepts w ⟨name :: names, entry.2⟩ then some (s.documentAt ⟨name :: names, entry.2⟩)
    else none
  | _ => none

theorem documentOf_append (more : names ≠ []) (node : Node) :
    s.documentOf w base (base ++ names, node) =
      if s.accepts w ⟨names, node⟩ then some (s.documentAt ⟨names, node⟩) else none := by
  have cut : base.isPrefixOf? (base ++ names) = some names :=
    List.isPrefixOf?_eq_some_iff_append_eq.mpr rfl
  obtain ⟨name, rest, rfl⟩ := List.exists_cons_of_ne_nil more
  rw [documentOf]
  simp only [cut]

theorem exists_of_documentOf {entry : Location × Node} {file : DocumentFile}
    (h : s.documentOf w base entry = some file) :
    ∃ names, names ≠ [] ∧ entry.1 = base ++ names := by
  unfold documentOf at h
  split at h
  next name names cut =>
    exact ⟨name :: names, by simp, (List.append_eq_of_isPrefixOf?_eq_some cut).symm⟩
  · cases h

theorem accepted_eq (directory : w.lookup s.root = .ok (base, .directory)) :
    s.accepted w = sorted (w.tree.nodes.toList.filterMap (s.documentOf w base)) := by
  have listed : ((w.listing s.root).filter (s.accepts w)).map s.documentAt =
      w.tree.nodes.toList.filterMap (s.documentOf w base) := by
    unfold Workspace.listing
    simp only [directory, List.filter_append, List.map_append]
    have link : List.filter (s.accepts w)
        (if w.isLink s.root then [⟨[], .link s.root.text⟩] else []) = [] := by
      split
      · rw [List.filter_singleton, accepts_rootLink directory]
        rfl
      · rfl
    rw [link, List.map_nil, List.nil_append, FileTree.beneath]
    generalize w.tree.nodes.toList = entries
    -- The induction is on the entries of the tree, and both sides skip those outside the root.
    induction entries with
    | nil => rfl
    | cons entry entries ih =>
      obtain ⟨loc, node⟩ := entry
      rw [List.filterMap_cons, List.filterMap_cons, documentOf]
      dsimp only
      cases base.isPrefixOf? loc with
      | none => exact ih
      | some names =>
        cases names with
        | nil => exact ih
        | cons name names =>
          simp only [List.map_cons, List.filter_cons]
          split
          · rw [List.map_cons, ih]
          · exact ih
  rw [accepted_eq_sorted, listed]

/-- `w'` is `w` with a document added for `s`: a file beneath the root that the globs let pass, with a
path of its own. -/
structure AddsDocument (s : Scanner) (w : Workspace) (base : Location) (names : List String)
    (content : ByteArray) (w' : Workspace) : Prop where
  directory : w.lookup s.root = .ok (base, .directory)
  file : w.AddsFile (base ++ names) content w'
  passes : s.passes ("/".intercalate names) = true
  fresh : ∀ found ∈ w.listing s.root, s.accepts w found = true →
    (s.documentAt found).relative ≠ (s.documentAt ⟨names, .file content⟩).relative

namespace AddsDocument

theorem names_ne_nil (adds : s.AddsDocument w base names content w') : names ≠ [] := by
  rintro rfl
  have added := adds.file.added
  rw [List.append_nil] at added
  -- The root of the project is a directory, whether it is the root of the tree or not.
  obtain ⟨_, _, found⟩ := Workspace.lookup_eq_ok_iff.mp adds.directory
  rcases FileTree.isDirectoryIn_of_node? found with root | directory
  · exact (w'.tree.rooted base _ added).1 root
  · rw [adds.file.grows.tree _ _ directory] at added
    cases added

/-- A directory that is new lies on the way to the document, so its path is no longer than that of the
directory of the document. -/
theorem above_of_new (adds : s.AddsDocument w base names content w') {names' : List String}
    (found : w'.tree.nodes.get? (base ++ names') = some .directory)
    (new : w.tree.nodes.get? (base ++ names') ≠ some .directory) : names' <+: names.dropLast := by
  have above : base ++ names' <+: base ++ names := by
    by_contra elsewhere
    exact new (by rw [← adds.file.elsewhere _ elsewhere, found])
  obtain ⟨below, rfl⟩ := (List.prefix_append_right_inj base).mp above
  have proper : below ≠ [] := by
    rintro rfl
    have added := adds.file.added
    rw [List.append_nil, found] at added
    cases added
  rw [List.dropLast_append_of_ne_nil proper]
  exact List.prefix_append _ _

/-- If the walk can open the directory of the new document, it can open all others as well. -/
theorem walks (adds : s.AddsDocument w base names content w') (walks : s.Walks w)
    (housed : s.outOfReach ⟨names.dropLast, .directory⟩ = false) : s.Walks w' := by
  rintro ⟨names', node⟩ listed
  rcases mem_listing (adds.file.grows.lookup_eq_ok adds.directory) listed with beneath | root
  · obtain ⟨more, found⟩ := FileTree.mem_beneath beneath
    refine decide_eq_false ?_
    rintro ⟨rfl, long⟩
    by_cases old : w.tree.nodes.get? (base ++ names') = some .directory
    · have reached := walks _ (mem_listing_of_mem_beneath adds.directory
        (FileTree.mem_beneath_of_get? more old))
      exact of_decide_eq_false reached ⟨rfl, long⟩
    -- A new directory lies on the way to the file, so its path is no longer than that of the last one.
    · have above := adds.above_of_new found old
      have folder : names.dropLast ≠ [] := fun none => more (List.prefix_nil.mp (none ▸ above))
      have valid : ∀ name ∈ names.dropLast, IsName name := fun name member =>
        w'.tree.named _ _ adds.file.added name
          (List.mem_append_right _ (List.dropLast_subset _ member))
      have filled : s.root.text ≠ "" :=
        (Workspace.checkText_eq_ok_iff.mp (Workspace.lookup_eq_ok_iff.mp adds.directory).1).1
      have shorter := utf8ByteSize_join_le filled valid above
      rw [pathOf_eq more] at long
      rw [outOfReach, pathOf_eq folder] at housed
      exact of_decide_eq_false housed ⟨rfl, long.trans shorter⟩
  · rw [root]
    rfl

theorem documentOf_eq (adds : s.AddsDocument w base names content w')
    (steady : ∀ found ∈ w.listing s.root, s.accepts w' found = s.accepts w found)
    {entry : Location × Node} (listed : entry ∈ w.tree.nodes.toList) :
    s.documentOf w' base entry = s.documentOf w base entry := by
  obtain ⟨loc, node⟩ := entry
  -- What does not lie beneath the root is no document in either workspace.
  by_cases below : ∃ names, names ≠ [] ∧ loc = base ++ names
  · obtain ⟨names, more, rfl⟩ := below
    have beneath := FileTree.mem_beneath_of_get? more (SortedMap.mem_toList_iff.mp listed)
    have found := mem_listing_of_mem_beneath adds.directory beneath
    rw [documentOf_append more, documentOf_append more, steady _ found]
  · have none : ∀ w, s.documentOf w base (loc, node) = none := by
      intro w
      by_contra some
      obtain ⟨file, some⟩ := Option.ne_none_iff_exists'.mp some
      exact below (exists_of_documentOf some)
    rw [none, none]

theorem documentOf_eq_none (adds : s.AddsDocument w base names content w')
    {entry : Location × Node} (listed : entry ∈ w'.tree.nodes.toList)
    (new : w.tree.nodes.get? entry.1 = none) (other : entry.1 ≠ base ++ names) :
    s.documentOf w' base entry = none := by
  obtain ⟨loc, node⟩ := entry
  rcases adds.file.cases (SortedMap.mem_toList_iff.mp listed) with old | ⟨same, _⟩ | rfl
  · rw [old] at new
    cases new
  · exact absurd same other
  · by_contra some
    obtain ⟨file, some⟩ := Option.ne_none_iff_exists'.mp some
    obtain ⟨names, more, same⟩ := exists_of_documentOf some
    obtain rfl : loc = base ++ names := same
    rw [documentOf_append more] at some
    cases some

theorem filterMap_documentOf (adds : s.AddsDocument w base names content w')
    (steady : ∀ found ∈ w.listing s.root, s.accepts w' found = s.accepts w found)
    (entries : List (Location × Node)) (within : entries ⊆ w'.tree.nodes.toList)
    (others : ∀ entry ∈ entries, entry.1 ≠ base ++ names) :
    entries.filterMap (s.documentOf w' base) =
      (entries.filter fun entry => (w.tree.nodes.get? entry.1).isSome).filterMap
        (s.documentOf w base) := by
  rw [List.filterMap_filter]
  apply List.filterMap_congr
  intro entry listed
  cases old : w.tree.nodes.get? entry.1 with
  | none => exact adds.documentOf_eq_none (within listed) old (others entry listed)
  | some node =>
    have kept := adds.file.grows.tree _ _ old
    rw [SortedMap.mem_toList_iff.mp (within listed)] at kept
    obtain rfl := Option.some.inj kept
    exact adds.documentOf_eq steady (SortedMap.mem_toList_iff.mpr old)

end AddsDocument

/-- The new document comes between those whose paths from the root are below and above its own, if no
link becomes a document with it. -/
theorem sortsIn_accepted (adds : s.AddsDocument w base names content w')
    (steady : ∀ found ∈ w.listing s.root, s.accepts w' found = s.accepts w found) :
    SortsIn (s.documentAt ⟨names, .file content⟩) (s.accepted w) (s.accepted w') := by
  obtain ⟨first, last, entries⟩ :=
    List.append_of_mem (SortedMap.mem_toList_iff.mpr adds.file.added)
  -- No location is listed twice, so the new one is neither before nor after itself.
  have distinct := w'.tree.nodes.nodup_keys
  rw [entries, List.map_append, List.map_cons, List.nodup_middle, List.nodup_cons,
    ← List.map_append] at distinct
  have others : ∀ entry ∈ first ++ last, entry.1 ≠ base ++ names := by
    intro entry listed same
    exact distinct.1 (List.mem_map.mpr ⟨entry, listed, same⟩)
  have added : s.documentOf w' base (base ++ names, .file content) =
      some (s.documentAt ⟨names, .file content⟩) := by
    rw [documentOf_append adds.names_ne_nil, accepts, adds.passes]
    rfl
  have before := adds.filterMap_documentOf steady first (by simp [entries])
    fun entry listed => others entry (List.mem_append_left _ listed)
  have after := adds.filterMap_documentOf steady last (by simp [entries])
    fun entry listed => others entry (List.mem_append_right _ listed)
  have old : w.tree.nodes.toList.filterMap (s.documentOf w base) =
      first.filterMap (s.documentOf w' base) ++ last.filterMap (s.documentOf w' base) := by
    rw [adds.file.grows.tree.toList_eq, entries, List.filter_append, List.filter_cons,
      adds.file.vacant, before, after, List.filterMap_append]
    rfl
  rw [accepted_eq adds.directory, accepted_eq (adds.file.grows.lookup_eq_ok adds.directory), old,
    entries, List.filterMap_append, List.filterMap_cons, added]
  apply sortsIn_sorted
  intro file member
  have listed : file ∈ s.accepted w := by
    rwa [accepted_eq adds.directory, (sorted_perm _).mem_iff, old]
  obtain ⟨found, among, accepted, rfl⟩ := mem_accepted.mp listed
  exact adds.fresh found among accepted

end Scanner

end SpecPrompt
