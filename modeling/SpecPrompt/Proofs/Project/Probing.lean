import SpecPrompt.Proofs.Project.Configuration

/-!
# Where a configuration is found

The places for a configuration are paths, made from the absolute path of the root. What they stand for
are locations: those in the root's directory, then those in the two directories above it in the tree.
The two agree if the root's absolute path goes down in its last two components. A `..` there makes a
directory beneath the root the one whose path is above the root's.

A place is also a file that can be opened only if its path is not too long.

## Main results

- `spots_configurationPlaces`: where the places lie.
- `locateConfiguration_in_tree`: which file is found, in a tree without links.
-/

namespace SpecPrompt

open Outcome

/-- The locations for the configuration of the project in the directory `d`, in the order of trying
them: in the directory itself, then in the two above it. -/
def configurationLocations (d : Location) : List Location :=
  [d ++ ["config.lnegc"], d ++ [".lnegc", "config.lnegc"]] ++
    (directoriesAbove 2 d).flatMap fun above =>
      [above ++ [".lnegc", "config.lnegc"], above ++ ["config.lnegc"]]

/-- The places lie where the tree has the directories above the root, if the root's path goes down at
its end. -/
theorem spots_configurationPlaces {root : Path} (rooted : root.lead = .root)
    (notUp : ['.', '.'] ∉ root.components.reverse.take 2) (here : Location) :
    (configurationPlaces root).map (·.spot here) = configurationLocations (root.spot here) := by
  rw [configurationPlaces, configurationLocations, ← Path.spots_ancestors rooted 2 notUp here,
    List.map_append, List.map_flatMap, List.flatMap_map]
  simp only [List.map_cons, List.map_nil, spot_plainConfiguration, spot_hiddenConfiguration]

/-! ### Files in a directory -/

theorem resolve_names {names : List String} (h : ∀ name ∈ names, IsName name) (loc : Location) :
    resolve loc names = loc ++ names := by
  induction names generalizing loc with
  | nil => exact (List.append_nil loc).symm
  | cons name names ih =>
    have valid := h name (by simp)
    rw [resolve_cons, enter_of_ne valid.1.2.1 valid.1.2.2,
      ih (fun other listed => h other (by simp [listed])), List.append_assoc, List.singleton_append]

namespace Workspace

variable {w : Workspace} {directory : Path}

/-- A path made from that of a directory is one of a file if the file is there and the path is not too
long. -/
private theorem isFile_join_iff (filled : directory.text ≠ "")
    (leads : directory.text.utf8ByteSize < pathLimit →
      w.lookup directory = .ok (directory.spot w.here, .directory))
    (plain : w.tree.NoLinks) {names : List String} (more : names ≠ [])
    (valid : ∀ name ∈ names, IsName name) :
    w.isFile (directory.join ⟨"/".intercalate names⟩) = true ↔
      (w.tree.file? (directory.spot w.here ++ names)).isSome = true ∧
        (directory.join ⟨"/".intercalate names⟩).text.utf8ByteSize < pathLimit := by
  have relative := isAbsolute_intercalate valid
  constructor
  · intro isFile
    obtain ⟨loc, content, leads⟩ := Workspace.isFile_iff.mp isFile
    obtain ⟨sound, _, there⟩ := lookup_eq_ok_iff.mp leads
    have spot := spot_of_lookup plain leads
    obtain ⟨start, own⟩ := Path.names_join filled relative w.here
    rw [Path.spot, start, own, namesOf_intercalate valid, resolve_append, resolve_names valid] at spot
    rw [FileTree.node?] at there
    split at there
    · cases there
    · rw [Path.spot, spot, FileTree.file?_eq_some_iff.mpr there]
      exact ⟨rfl, (checkText_eq_ok_iff.mp sound).2.2⟩
  · rintro ⟨there, short⟩
    obtain ⟨content, there⟩ := Option.isSome_iff_exists.mp there
    rw [FileTree.file?_eq_some_iff] at there
    have shorter : directory.text.utf8ByteSize < pathLimit := by
      rw [Path.join_of_relative relative filled] at short
      split at short <;> simp only [String.utf8ByteSize_append] at short <;> omega
    rw [isFile, lookup_join (FileTree.mem_beneath_of_get? more there) (fun _ => by simp)
      (leads shorter), if_neg (by omega)]

theorem LeadsIn.isFile_join (h : w.LeadsIn directory) (plain : w.tree.NoLinks)
    {names : List String} (more : names ≠ []) (valid : ∀ name ∈ names, IsName name) :
    w.isFile (directory.join ⟨"/".intercalate names⟩) = true ↔
      (w.tree.file? (directory.spot w.here ++ names)).isSome = true ∧
        (directory.join ⟨"/".intercalate names⟩).text.utf8ByteSize < pathLimit := by
  refine isFile_join_iff (fun empty => ?_) h.lookup_eq plain more valid
  have slash := Path.lead_eq_root_iff.mp h.rooted
  rw [empty] at slash
  cases slash

theorem isFile_join {loc : Location} (leads : w.lookup directory = .ok (loc, .directory))
    (plain : w.tree.NoLinks) {names : List String} (more : names ≠ [])
    (valid : ∀ name ∈ names, IsName name) :
    w.isFile (directory.join ⟨"/".intercalate names⟩) = true ↔
      (w.tree.file? (loc ++ names)).isSome = true ∧
        (directory.join ⟨"/".intercalate names⟩).text.utf8ByteSize < pathLimit := by
  obtain ⟨sound, _⟩ := lookup_eq_ok_iff.mp leads
  obtain rfl := spot_of_lookup plain leads
  exact isFile_join_iff (checkText_eq_ok_iff.mp sound).1 (fun _ => leads) plain more valid

theorem LeadsIn.isFile_plainConfiguration (h : w.LeadsIn directory) (plain : w.tree.NoLinks) :
    w.isFile (plainConfiguration directory) = true ↔
      (w.tree.file? ((plainConfiguration directory).spot w.here)).isSome = true ∧
        (plainConfiguration directory).text.utf8ByteSize < pathLimit := by
  have valid : ∀ name ∈ ["config.lnegc"], IsName name := by decide
  have own := h.isFile_join plain (by simp) valid
  rw [String.intercalate_singleton] at own
  rw [spot_plainConfiguration]
  exact own

theorem LeadsIn.isFile_hiddenConfiguration (h : w.LeadsIn directory) (plain : w.tree.NoLinks) :
    w.isFile (hiddenConfiguration directory) = true ↔
      (w.tree.file? ((hiddenConfiguration directory).spot w.here)).isSome = true ∧
        (hiddenConfiguration directory).text.utf8ByteSize < pathLimit := by
  have valid : ∀ name ∈ [".lnegc", "config.lnegc"], IsName name := by decide
  have own := h.isFile_join plain (by simp) valid
  rw [spot_hiddenConfiguration, hiddenConfiguration_eq h.rooted]
  exact own

theorem isFile_of_mem_configurationPlaces {root place : Path} (h : w.LeadsIn root)
    (plain : w.tree.NoLinks) (listed : place ∈ configurationPlaces root) :
    w.isFile place = true ↔ (w.tree.file? (place.spot w.here)).isSome = true ∧
      place.text.utf8ByteSize < pathLimit := by
  rw [configurationPlaces, List.mem_append, List.mem_flatMap] at listed
  rcases listed with own | ⟨above, listed, own⟩
  · rcases List.mem_pair.mp own with rfl | rfl
    · exact h.isFile_plainConfiguration plain
    · exact h.isFile_hiddenConfiguration plain
  · rcases List.mem_pair.mp own with rfl | rfl
    · exact (h.ancestor listed).isFile_hiddenConfiguration plain
    · exact (h.ancestor listed).isFile_plainConfiguration plain

theorem result_locateConfiguration {root whole : Path} (absolute : w.absolute root = .ok whole) :
    (w.locateConfiguration root).result =
      match (configurationPlaces whole).find? w.isFile with
      | some place => .ok place
      | none => .error (.noConfiguration (configurationPlaces whole)) := by
  have candidates : (w.configurationCandidates root).result = .ok (configurationPlaces whole) := by
    rw [configurationCandidates, absolute]
    rfl
  rw [locateConfiguration, result_bind_of_ok candidates]
  cases (configurationPlaces whole).find? w.isFile <;> rfl

end Workspace

/-- In a tree without links, the configuration of the project in a directory is the file at the first of
its locations that has one, and there is no configuration if none has one. A place with too long a path
counts as one without a file. The locations are those of the directory in the tree, so another spelling
of it finds the same file, if its absolute path goes down at its end. -/
theorem locateConfiguration_in_tree {w : Workspace} {root whole : Path} {d : Location}
    (plain : w.tree.NoLinks) (directory : w.lookup root = .ok (d, .directory))
    (absolute : w.absolute root = .ok whole)
    (notUp : ['.', '.'] ∉ whole.components.reverse.take 2) :
    (configurationPlaces whole).map (·.spot w.here) = configurationLocations d ∧
      ((w.locateConfiguration root).result =
        match (configurationPlaces whole).find? fun place =>
          (w.tree.file? (place.spot w.here)).isSome && place.text.utf8ByteSize < pathLimit with
        | some place => .ok place
        | none => .error (.noConfiguration (configurationPlaces whole))) ∧
      ((∀ place ∈ configurationPlaces whole, place.text.utf8ByteSize < pathLimit) →
        match (configurationLocations d).find? fun loc => (w.tree.file? loc).isSome with
        | some loc => ∃ place content, (w.locateConfiguration root).result = .ok place ∧
            w.lookup place = .ok (loc, .file content)
        | none => (w.locateConfiguration root).result =
            .error (.noConfiguration (configurationPlaces whole))) := by
  obtain ⟨leads, rfl⟩ := Workspace.leadsIn_of_absolute plain directory absolute
  have spots := spots_configurationPlaces leads.rooted notUp w.here
  -- Probing a place is asking for a file at its location, as long as its path is short enough.
  have isFile : ∀ place ∈ configurationPlaces whole, w.isFile place = true ↔
      (w.tree.file? (place.spot w.here)).isSome = true ∧ place.text.utf8ByteSize < pathLimit :=
    fun place listed => Workspace.isFile_of_mem_configurationPlaces leads plain listed
  refine ⟨spots, ?_, fun short => ?_⟩
  · rw [Workspace.result_locateConfiguration absolute]
    have probed : (configurationPlaces whole).find? w.isFile =
        (configurationPlaces whole).find? fun place =>
          (w.tree.file? (place.spot w.here)).isSome && place.text.utf8ByteSize < pathLimit := by
      refine List.find?_congr fun place listed => ?_
      rw [Bool.eq_iff_iff, isFile place listed, Bool.and_eq_true, decide_eq_true_eq]
    rw [probed]
  · have probed : (configurationLocations (whole.spot w.here)).find?
          (fun loc => (w.tree.file? loc).isSome) =
        ((configurationPlaces whole).find? w.isFile).map (·.spot w.here) := by
      rw [← spots, List.find?_map]
      refine congrArg _ (List.find?_congr fun place listed => ?_)
      rw [Bool.eq_iff_iff, isFile place listed]
      exact (and_iff_left (short place listed)).symm
    rw [probed, Workspace.result_locateConfiguration absolute]
    cases found : (configurationPlaces whole).find? w.isFile with
    | none => rfl
    | some place =>
      obtain ⟨loc, content, leads⟩ :=
        Workspace.isFile_iff.mp (List.find?_some found)
      have spot := Workspace.spot_of_lookup plain leads
      refine ⟨place, content, rfl, ?_⟩
      dsimp only
      rw [spot]
      exact leads

/-- A project whose configuration is in the hidden folder of the directory above its own. -/
def below : Workspace :=
  let tree := (FileTree.empty.place ["a"] .directory).place ["a", ".lnegc"] .directory
  let tree := tree.place ["a", ".lnegc", "config.lnegc"] (.file .empty)
  ⟨(tree.place ["a", "b"] .directory).place ["a", "b", "c"] .directory, ["a"]⟩

theorem locateConfiguration_below :
    (below.tree.NoLinks ∧ below.lookup ⟨"b/.//c/"⟩ = .ok (["a", "b", "c"], .directory) ∧
        below.absolute ⟨"b/.//c/"⟩ = .ok ⟨"/a/b/c/"⟩ ∧
        ['.', '.'] ∉ (Path.mk "/a/b/c/").components.reverse.take 2 ∧
        ∀ place ∈ configurationPlaces ⟨"/a/b/c/"⟩, place.text.utf8ByteSize < pathLimit) ∧
      ∃ place content, (below.locateConfiguration ⟨"b/.//c/"⟩).result = .ok place ∧
        below.lookup place = .ok (["a", ".lnegc", "config.lnegc"], .file content) := by
  have plain : below.tree.NoLinks := by decide +kernel
  have directory : below.lookup ⟨"b/.//c/"⟩ = .ok (["a", "b", "c"], .directory) :=
    eq_ok_of_toOption (by decide +kernel)
  have absolute : below.absolute ⟨"b/.//c/"⟩ = .ok ⟨"/a/b/c/"⟩ :=
    eq_ok_of_toOption (by decide +kernel)
  have notUp : ['.', '.'] ∉ (Path.mk "/a/b/c/").components.reverse.take 2 := by decide +kernel
  have short : ∀ place ∈ configurationPlaces ⟨"/a/b/c/"⟩, place.text.utf8ByteSize < pathLimit := by
    decide +kernel
  have first : (configurationLocations ["a", "b", "c"]).find?
      (fun loc => (below.tree.file? loc).isSome) = some ["a", ".lnegc", "config.lnegc"] := by
    decide +kernel
  have found := (locateConfiguration_in_tree plain directory absolute notUp).2.2 short
  rw [first] at found
  exact ⟨⟨plain, directory, absolute, notUp, short⟩, found⟩

/-- Two spellings of one directory, with no configuration in it or above it. From the one that goes
down and up again, a file beneath the directory is found. -/
theorem locateConfiguration_nested :
    nested.tree.NoLinks ∧ nested.lookup ⟨"p"⟩ = .ok (["p"], .directory) ∧
      nested.lookup ⟨"p/tests/.."⟩ = .ok (["p"], .directory) ∧
      (∀ loc ∈ configurationLocations ["p"], nested.tree.file? loc = none) ∧
      (nested.locateConfiguration ⟨"p"⟩).result =
        .error (.noConfiguration (configurationPlaces ⟨"/p"⟩)) ∧
      ∃ place content, (nested.locateConfiguration ⟨"p/tests/.."⟩).result = .ok place ∧
        nested.lookup place = .ok (["p", "tests", "config.lnegc"], .file content) := by
  have absolute : nested.absolute ⟨"p"⟩ = .ok ⟨"/p"⟩ := eq_ok_of_toOption (by decide +kernel)
  have none : (configurationPlaces ⟨"/p"⟩).find? nested.isFile = none := by decide +kernel
  refine ⟨by decide +kernel, eq_ok_of_toOption (by decide +kernel),
    eq_ok_of_toOption (by decide +kernel), by decide +kernel, ?_,
    ⟨"/p/tests/config.lnegc"⟩, .empty, eq_ok_of_toOption (by decide +kernel),
    eq_ok_of_toOption (by decide +kernel)⟩
  rw [Workspace.result_locateConfiguration absolute, none]

end SpecPrompt
