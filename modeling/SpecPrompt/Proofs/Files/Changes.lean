import Mathlib.Logic.Function.Basic
import SpecPrompt.Files.Change
import SpecPrompt.Proofs.Files.Plain

/-!
# What changes do to files

A change that succeeds on a tree without links leaves every directory where it is and every regular
file as it is, but for those at the spots of its own paths.

## Main result

`apply_eq_ok`: the files after a change.
-/

namespace SpecPrompt

namespace FileTree

variable {t : FileTree} {loc other parent : Location} {name : String} {node : Node}

/-! ### Placing and removing -/

theorem get?_place (room : t.HasRoom loc) (node : Node) (other : Location) :
    (t.place loc node).nodes.get? other = if other = loc then some node else t.nodes.get? other := by
  rw [place, dif_pos room]
  exact SortedMap.get?_insert t.nodes loc other node

theorem isDirectoryIn_place (room : t.HasRoom loc) (node : Node)
    (inside : IsDirectoryIn t.nodes other) : IsDirectoryIn (t.place loc node).nodes other := by
  rcases inside with root | directory
  · exact .inl root
  · have apart : other ≠ loc := by
      rintro rfl
      exact room.2.2 (.inr directory)
    right
    rw [get?_place room, if_neg apart, directory]

theorem noLinks_place (room : t.HasRoom loc) (plain : t.NoLinks) (noLink : node.isLink = false) :
    (t.place loc node).NoLinks := by
  rw [noLinks_iff] at plain ⊢
  intro other found h
  rw [get?_place room] at h
  split at h
  · obtain rfl := Option.some.inj h
    exact noLink
  · exact plain other found h

theorem file?_place_file (room : t.HasRoom loc) (content : ByteArray) :
    (t.place loc (.file content)).file? = Function.update t.file? loc (some content) := by
  funext other
  rw [file?, get?_place room, Function.update_apply, file?]
  by_cases same : other = loc
  · rw [if_pos same, if_pos same]
  · rw [if_neg same, if_neg same]

theorem file?_place_directory (room : t.HasRoom loc) (vacant : t.nodes.get? loc = none) :
    (t.place loc .directory).file? = t.file? := by
  funext other
  rw [file?, get?_place room, file?]
  by_cases same : other = loc
  · rw [if_pos same, same, vacant]
  · rw [if_neg same]

theorem hasRoom_of_node (found : t.nodes.get? loc = some node)
    (outside : ¬ IsDirectoryIn t.nodes loc) : t.HasRoom loc :=
  ⟨⟨(t.rooted loc node found).1, t.named loc node found⟩, (t.rooted loc node found).2, outside⟩

theorem hasRoom_concat (inside : IsDirectoryIn t.nodes parent) (valid : IsName name)
    (outside : ¬ IsDirectoryIn t.nodes (parent ++ [name])) : t.HasRoom (parent ++ [name]) := by
  refine ⟨⟨by simp, fun other listed => ?_⟩, by rwa [List.dropLast_concat], outside⟩
  rcases List.mem_append.mp listed with above | last
  · exact isName_of_isDirectoryIn inside other above
  · rwa [List.mem_singleton.mp last]

section

variable {content : ByteArray} (file : t.nodes.get? loc = some (.file content))
include file

theorem get?_remove (other : Location) :
    (t.remove loc).nodes.get? other = if other = loc then none else t.nodes.get? other := by
  rw [remove, SortedMap.get?_filterKeys]
  by_cases same : other = loc
  · rw [if_pos same, if_neg (by simp [same])]
  · rw [if_neg same]
    -- Nothing lies beneath a regular file, so it is removed alone.
    by_cases below : loc <+: other
    · obtain ⟨names, rfl⟩ := below
      have more : names ≠ [] := by
        rintro rfl
        exact same (List.append_nil loc)
      cases found : t.nodes.get? (loc ++ names) with
      | none => split <;> rfl
      | some node => exact absurd (isDirectoryIn_above found more) (not_isDirectoryIn_of_file file)
    · rw [if_pos (by simpa [← Bool.not_eq_true, List.isPrefixOf_iff_prefix] using below)]

theorem isDirectoryIn_remove (inside : IsDirectoryIn t.nodes other) :
    IsDirectoryIn (t.remove loc).nodes other := by
  have apart : other ≠ loc := by
    rintro rfl
    exact not_isDirectoryIn_of_file file inside
  rcases inside with root | directory
  · exact .inl root
  · right
    rw [get?_remove file, if_neg apart, directory]

theorem hasRoom_remove (room : t.HasRoom other) : (t.remove loc).HasRoom other := by
  obtain ⟨valid, above, outside⟩ := room
  refine ⟨valid, isDirectoryIn_remove file above, ?_⟩
  -- What is removed may be at `other` itself, as when a file moves to its own place.
  rintro (root | directory)
  · exact valid.1 root
  · rw [get?_remove file] at directory
    split at directory
    · cases directory
    · exact outside (.inr directory)

theorem noLinks_remove (plain : t.NoLinks) : (t.remove loc).NoLinks := by
  rw [noLinks_iff] at plain ⊢
  intro other found h
  rw [get?_remove file] at h
  split at h
  · cases h
  · exact plain other found h

theorem file?_remove : (t.remove loc).file? = Function.update t.file? loc none := by
  funext other
  rw [file?, get?_remove file, Function.update_apply, file?]
  by_cases same : other = loc
  · rw [if_pos same, if_pos same]
  · rw [if_neg same, if_neg same]

end

end FileTree

namespace Workspace

variable {w w' : Workspace} {p source target : Path} {content : ByteArray}

/-! ### One operation -/

theorem copy_eq_ok (h : w.copy source target = .ok w') :
    ∃ loc content, w.lookup source = .ok (loc, .file content) ∧
      w.store target (if w.leadsTo target loc then .empty else content) = .ok w' := by
  obtain ⟨⟨loc, node⟩, found, copied⟩ := Outcome.except_bind_eq_ok_iff.mp h
  cases node with
  | file content => exact ⟨loc, content, found, copied⟩
  | directory => cases copied
  | link link => cases copied

section

variable (plain : w.tree.NoLinks)
include plain

theorem evolves_place {loc : Location} {node : Node} (room : w.tree.HasRoom loc)
    (noLink : node.isLink = false) : w.Evolves (w.place loc node) :=
  ⟨rfl, FileTree.noLinks_place room plain noLink, fun _ => FileTree.isDirectoryIn_place room node⟩

theorem makeDirectory_eq_ok (h : w.makeDirectory p = .ok w') :
    w.Evolves w' ∧ w'.tree.file? = w.tree.file? := by
  obtain ⟨⟨parent, step⟩, reached, made⟩ := Outcome.except_bind_eq_ok_iff.mp h
  cases step with
  | noName => cases made
  | name name slash =>
    obtain ⟨_, inside, valid⟩ := spot_of_locateEntry plain reached
    dsimp only at made
    split at made
    · cases made
    next free =>
      obtain rfl := Except.ok.inj made
      have vacant : w.tree.nodes.get? (parent ++ [name]) = none := by
        rwa [FileTree.node?, if_neg (by simp)] at free
      have outside : ¬ IsDirectoryIn w.tree.nodes (parent ++ [name]) := by
        simp [IsDirectoryIn, vacant]
      have room := FileTree.hasRoom_concat inside valid outside
      exact ⟨evolves_place plain room rfl, FileTree.file?_place_directory room vacant⟩

theorem store_eq_ok (h : w.store p content = .ok w') :
    w.tree.HasRoom (p.spot w.here) ∧ w' = w.place (p.spot w.here) (.file content) := by
  obtain ⟨place, found, stored⟩ := Outcome.except_bind_eq_ok_iff.mp h
  obtain ⟨_, sound, arrives⟩ := Outcome.except_bind_eq_ok_iff.mp found
  rw [FileTree.follow_eq_ok_iff plain] at arrives
  cases place with
  | vacant parent name =>
    obtain rfl := Except.ok.inj stored
    obtain ⟨leads, listed, free⟩ := FileTree.of_walk_vacant arrives
    rw [resolve_stepsOf] at leads
    have own : name ∈ namesOf p.text.toList := by
      rw [stepsOf_eq] at listed
      rcases List.mem_append.mp listed with own | ending
      · exact own
      · split at ending
        · exact absurd (List.mem_singleton.mp ending) free.notHere
        · cases ending
    have valid := isName_of_mem_namesOf sound own free.notHere free.notUp free.short
    have outside : ¬ IsDirectoryIn w.tree.nodes (parent ++ [name]) := by
      simp [IsDirectoryIn, free.vacant]
    rw [leads]
    exact ⟨FileTree.hasRoom_concat free.inside valid outside, rfl⟩
  | occupied loc =>
    dsimp only at stored
    split at stored
    · cases stored
    next outside =>
      obtain rfl := Except.ok.inj stored
      have outside : ¬ IsDirectoryIn w.tree.nodes loc := by
        simpa [FileTree.isDirectory] using outside
      have leads := FileTree.resolve_of_walk arrives
      rw [resolve_stepsOf] at leads
      rw [leads]
      refine ⟨?_, rfl⟩
      -- A path takes at least one step, and that step found what is there.
      have filled := stepsOf_ne_nil (checkText_eq_ok_iff.mp sound).1
      obtain ⟨before, last, steps⟩ := (List.eq_nil_or_concat' _).resolve_left filled
      rw [steps] at arrives
      obtain ⟨_, _, inside, step⟩ := FileTree.of_walk_concat arrives
      cases step with
      | stay => exact absurd inside outside
      | up => exact absurd (FileTree.isDirectoryIn_dropLast inside) outside
      | down _ _ _ taken => exact FileTree.hasRoom_of_node taken outside

/-- Where a path leads to something that is there, it leads to its spot. -/
theorem leadsTo_iff {loc : Location} {node : Node} (stored : w.store p content = .ok w')
    (taken : w.tree.nodes.get? loc = some node) :
    w.leadsTo p loc = true ↔ p.spot w.here = loc := by
  obtain ⟨place, found, _⟩ := Outcome.except_bind_eq_ok_iff.mp stored
  obtain ⟨_, _, arrives⟩ := Outcome.except_bind_eq_ok_iff.mp found
  rw [FileTree.follow_eq_ok_iff plain] at arrives
  rw [leadsTo, found, ← resolve_stepsOf, decide_eq_true_eq]
  cases place with
  | vacant parent name =>
    obtain ⟨leads, _, free⟩ := FileTree.of_walk_vacant arrives
    refine ⟨nofun, fun same => ?_⟩
    rw [← same, leads, free.vacant] at taken
    cases taken
  | occupied other => rw [FileTree.resolve_of_walk arrives, Place.occupied.injEq]

theorem write_eq_ok (h : w.write p content = .ok w') :
    w.tree.HasRoom (p.spot w.here) ∧ w' = w.place (p.spot w.here) (.file content) := by
  obtain ⟨⟨loc, node⟩, found, written⟩ := Outcome.except_bind_eq_ok_iff.mp h
  cases node with
  | directory => cases written
  | link link => cases written
  | file before =>
    obtain rfl := Except.ok.inj written
    obtain ⟨_, _, _, _, file⟩ := (lookup_file_iff plain).mp found
    rw [spot_of_lookup plain found]
    exact ⟨FileTree.hasRoom_of_node file (FileTree.not_isDirectoryIn_of_file file), rfl⟩

/-- A file that is moved is taken away from its place and put at the other. -/
theorem of_rename_eq_ok (h : w.rename source target = .ok w') :
    ∃ content, w.Reaches target ∧
      w.tree.nodes.get? (source.spot w.here) = some (.file content) ∧
      (w.tree.remove (source.spot w.here)).HasRoom (target.spot w.here) ∧
      w' = { w with
        tree := (w.tree.remove (source.spot w.here)).place (target.spot w.here) (.file content) } := by
  obtain ⟨⟨oldParent, old⟩, reached, h⟩ := Outcome.except_bind_eq_ok_iff.mp h
  obtain ⟨⟨newParent, new⟩, reached', moved⟩ := Outcome.except_bind_eq_ok_iff.mp h
  cases old with
  | noName => cases moved
  | name oldName oldSlash =>
    cases new with
    | noName => cases moved
    | name newName slash =>
      obtain ⟨from_eq, _, _⟩ := spot_of_locateEntry plain reached
      obtain ⟨to_eq, inside, valid⟩ := spot_of_locateEntry plain reached'
      dsimp only at moved
      rw [from_eq, to_eq]
      split at moved
      · cases moved
      · cases moved
      next node notDirectory found =>
        split at moved
        · cases moved
        next noSlash =>
          split at moved
          · cases moved
          next outside =>
            obtain rfl := Except.ok.inj moved
            have found : w.tree.nodes.get? (oldParent ++ [oldName]) = some node := by
              rwa [FileTree.node?, if_neg (by simp)] at found
            have outside : ¬ IsDirectoryIn w.tree.nodes (newParent ++ [newName]) := by
              simpa [FileTree.isDirectory] using outside
            -- Only a file is left to be moved, since the tree has no links.
            cases node with
            | directory => exact absurd rfl notDirectory
            | link link => cases FileTree.noLinks_iff.mp plain _ _ found
            | file content =>
              have room := FileTree.hasRoom_remove found (FileTree.hasRoom_concat inside valid outside)
              obtain rfl : slash = false := by simpa using noSlash
              exact ⟨content, ⟨newParent, newName, reached'⟩, found, room, rfl⟩

theorem rename_eq_ok (h : w.rename source target = .ok w') :
    w.Reaches target ∧ w.Evolves w' ∧
      w'.tree.file? = Function.update (Function.update w.tree.file? (source.spot w.here) none)
        (target.spot w.here) (w.tree.file? (source.spot w.here)) := by
  obtain ⟨content, reached, found, room, rfl⟩ := of_rename_eq_ok plain h
  refine ⟨reached, ⟨rfl, ?_, fun loc directory => ?_⟩, ?_⟩
  · exact FileTree.noLinks_place room (FileTree.noLinks_remove found plain) rfl
  · exact FileTree.isDirectoryIn_place room _ (FileTree.isDirectoryIn_remove found directory)
  · rw [FileTree.file?_place_file room, FileTree.file?_remove found,
      FileTree.file?_eq_some_iff.mpr found]

end

end Workspace

/-! ### Any change -/

/-- The files after a change, by the files before it. -/
def Change.filesAfter (here : Location) (files : Location → Option ByteArray) :
    Change → Location → Option ByteArray
  | .makeDirectory _ => files
  | .copy source target => Function.update files (target.spot here)
    (if target.spot here = source.spot here then some .empty else files (source.spot here))
  | .create path => Function.update files (path.spot here) (some .empty)
  | .write path content => Function.update files (path.spot here) (some content)
  | .sync _ => files
  | .rename source target =>
    Function.update (Function.update files (source.spot here) none) (target.spot here)
      (files (source.spot here))

/-- A change that succeeds puts at the spots of its paths what it says, and nothing elsewhere. -/
theorem Change.apply_eq_ok {change : Change} {w w' : Workspace} (plain : w.tree.NoLinks)
    (h : change.apply w = .ok w') :
    w.Evolves w' ∧ w'.tree.file? = change.filesAfter w.here w.tree.file? := by
  cases change with
  | makeDirectory path => exact Workspace.makeDirectory_eq_ok plain h
  | copy source target =>
    obtain ⟨loc, content, found, stored⟩ := Workspace.copy_eq_ok h
    obtain ⟨_, _, _, _, file⟩ := (Workspace.lookup_file_iff plain).mp found
    -- A copy that falls on its own source has emptied it before it is read.
    have own := Workspace.leadsTo_iff plain stored file
    obtain ⟨room, rfl⟩ := Workspace.store_eq_ok plain stored
    refine ⟨Workspace.evolves_place plain room rfl, ?_⟩
    rw [filesAfter, Workspace.spot_of_lookup plain found, FileTree.file?_eq_some_iff.mpr file,
      ← apply_ite some, ← if_congr own rfl rfl]
    exact FileTree.file?_place_file room _
  | create path =>
    obtain ⟨room, rfl⟩ := Workspace.store_eq_ok plain h
    exact ⟨Workspace.evolves_place plain room rfl, FileTree.file?_place_file room _⟩
  | write path content =>
    obtain ⟨room, rfl⟩ := Workspace.write_eq_ok plain h
    exact ⟨Workspace.evolves_place plain room rfl, FileTree.file?_place_file room _⟩
  | sync path =>
    change (w.lookup path).map _ = _ at h
    cases found : w.lookup path with
    | error fault =>
      rw [found] at h
      cases h
    | ok entry =>
      rw [found] at h
      obtain rfl := Except.ok.inj h
      exact ⟨.refl plain, rfl⟩
  | rename source target => exact (Workspace.rename_eq_ok plain h).2

end SpecPrompt
