import SpecPrompt.Proofs.Files.Absolute
import SpecPrompt.Proofs.Files.Changes

/-!
# Changes that cannot fail

In a tree without links, a file can be stored under a path that reaches its last name, unless a
directory has that name. Whether the name is reached depends on the directories of the tree alone, and
only one kind of change makes directories.

## Main results

- `exists_store`: when a file can be stored.
- `reaches_withFileName`: when a path with another file name is reached.
- `isDirectoryIn_of_apply`: which changes make directories.
-/

namespace SpecPrompt

namespace Workspace

variable {w w' : Workspace} {p : Path} {loc : Location} {other : String} {content : ByteArray}

/-! ### Names beside a file -/

/-- If a path is reached, so is every sibling under a name that is one, unless its path is too long. -/
theorem reaches_withFileName (plain : w.tree.NoLinks) (reached : w.Reaches p) (valid : IsName other)
    (short : (p.withFileName other).text.utf8ByteSize < pathLimit) :
    w.Reaches (p.withFileName other) := by
  obtain ⟨loc, name, reached⟩ := reached
  have named := fileName?_of_locateEntry plain reached
  obtain ⟨_, arrives, inside, last⟩ := (locateEntry_eq_ok_iff plain).mp reached
  obtain ⟨⟨above, names⟩, notHere, _, _, _⟩ := of_lastStepOf last
  obtain ⟨parent, before, last, found, same, start, own⟩ :=
    Path.exists_parent?_names (Path.components_ne_nil_of_fileName? named)
  have step : Path.IsStep other := ⟨valid.1.1, valid.1.2.1, valid.1.2.2, valid.2.1.1⟩
  have path_eq : p.withFileName other = parent.join ⟨other⟩ := by
    rw [Path.withFileName, found, Option.getD_some]
  obtain ⟨start', names', noSlash⟩ := parent.names_join_step step w.here
  -- The names above the last one are the same, but for those that stay.
  have kept : above.filter (· != ".") = before.map String.ofList := by
    have listed := p.filter_namesOf
    rw [names, List.filter_append, List.filter_singleton, bne_iff_ne.mpr notHere, cond_true, same,
      List.map_append, List.map_singleton] at listed
    exact (List.append_inj' listed rfl).1
  have onward : w.tree.walk (startOf w.here parent.text) (namesOf parent.text.toList) =
      .ended (.occupied loc) := by
    rw [names, List.dropLast_concat] at arrives
    have undotted := FileTree.walk_filter (by rw [arrives]; trivial)
    rw [kept, arrives, ← own, Path.startOf_text, ← start] at undotted
    exact FileTree.walk_of_filter undotted inside
  refine ⟨loc, other, (locateEntry_eq_ok_iff plain).mpr ⟨?_, ?_, inside, ?_⟩⟩
  · rw [path_eq] at short ⊢
    refine checkText_eq_ok_iff.mpr ⟨fun empty => ?_, Path.nul_not_mem_of_components ?_, short⟩
    · rw [empty] at names'
      simp [namesOf] at names'
    · intro name listed
      rw [← Path.filter_namesOf, names'] at listed
      rcases List.mem_append.mp (List.mem_of_mem_filter listed) with early | late
      · exact FileTree.nul_not_mem_of_walk onward early
      · rw [List.mem_singleton.mp late]
        exact valid.2.1.2
  · rw [path_eq, start', names', List.dropLast_concat, onward]
  · rw [path_eq, lastStepOf, names', List.getLast?_concat]
    dsimp only
    rw [if_neg (by simp [step.notHere, step.notUp]), if_neg (Nat.not_lt.mpr valid.2.2),
      decide_eq_false noSlash]

theorem reaches_name (plain : w.tree.NoLinks) (inside : IsDirectoryIn w.tree.nodes w.here)
    (valid : IsName other) : w.Reaches ⟨other⟩ ∧ (Path.mk other).spot w.here = w.here ++ [other] := by
  have step : Path.IsStep other := ⟨valid.1.1, valid.1.2.1, valid.1.2.2, valid.2.1.1⟩
  have reached : w.locateEntry ⟨other⟩ = .ok (w.here, .name other false) := by
    have alone : (Path.mk "").join ⟨other⟩ = ⟨other⟩ := by simp [Path.join]
    obtain ⟨start, names, noSlash⟩ := (Path.mk "").names_join_step step w.here
    rw [alone] at start names noSlash
    have long : longestName < pathLimit := by decide
    have short := Nat.lt_of_le_of_lt valid.2.2 long
    have names : namesOf other.toList = [other] := names
    refine (locateEntry_eq_ok_iff plain).mpr
      ⟨checkText_eq_ok_iff.mpr ⟨step.filled, valid.2.1.2, short⟩, ?_, inside, ?_⟩
    · rw [start, names]
      show FileTree.walk _ _ [] = _
      rw [FileTree.walk]
      rfl
    · rw [lastStepOf, names]
      dsimp only [List.getLast?_singleton]
      rw [if_neg (by simp [step.notHere, step.notUp]), if_neg (Nat.not_lt.mpr valid.2.2),
        decide_eq_false noSlash]
  exact ⟨⟨_, _, reached⟩, (spot_of_locateEntry plain reached).1⟩

/-! ### Storing -/

/-- A path reaches its last name, and no directory has it. -/
structure Storable (w : Workspace) (p : Path) : Prop where
  reaches : w.Reaches p
  outside : ¬ IsDirectoryIn w.tree.nodes (p.spot w.here)

theorem storable_of_lookup_file (plain : w.tree.NoLinks) (leads : w.lookup p = .ok (loc, .file content)) :
    w.Storable p := by
  obtain ⟨parent, name, reached, rfl, file⟩ := (lookup_file_iff plain).mp leads
  refine ⟨⟨parent, name, reached⟩, ?_⟩
  rw [spot_of_lookup plain leads]
  exact FileTree.not_isDirectoryIn_of_file file

theorem lookup_of_store (plain : w.tree.NoLinks) (reached : w.Reaches p)
    (stored : w.store p content = .ok w') :
    w'.lookup p = .ok (p.spot w.here, .file content) := by
  obtain ⟨parent, name, reached⟩ := reached
  obtain ⟨room, rfl⟩ := store_eq_ok plain stored
  have evolves : w.Evolves (w.place (p.spot w.here) (.file content)) := evolves_place plain room rfl
  refine (lookup_file_iff evolves.noLinks).mpr
    ⟨parent, name, evolves.locateEntry_eq_ok plain reached, ?_, ?_⟩
  · rw [(spot_of_locateEntry plain reached).1]
  · exact (FileTree.get?_place room _ _).trans (if_pos rfl)

/-- Whatever it is, it can be stored. -/
theorem exists_store (plain : w.tree.NoLinks) (h : w.Storable p) (content : ByteArray) :
    ∃ w', w.store p content = .ok w' := by
  obtain ⟨⟨parent, name, reached⟩, outside⟩ := h
  rw [(spot_of_locateEntry plain reached).1] at outside
  obtain ⟨sound, arrives, inside, last⟩ := (locateEntry_eq_ok_iff plain).mp reached
  obtain ⟨⟨before, names⟩, notHere, notUp, short, noSlash⟩ := of_lastStepOf last
  have noSlash : p.text.toList.getLast? ≠ some '/' := of_decide_eq_false noSlash.symm
  have steps : w.tree.walk (startOf w.here p.text) (stepsOf p.text) = w.tree.walk parent [name] := by
    rw [names, List.dropLast_concat] at arrives
    rw [stepsOf_eq, if_neg noSlash, List.append_nil, names, FileTree.walk_append, arrives, Stretch.on]
  -- The last step ends at a file, or where there is nothing yet.
  have ends : ∃ place, w.tree.walk parent [name] = .ended place ∧
      (place = .occupied (parent ++ [name]) ∨ place = .vacant parent name) := by
    cases found : w.tree.nodes.get? (parent ++ [name]) with
    | none =>
      refine ⟨_, ?_, .inr rfl⟩
      have inside' : w.tree.isDirectory parent = true := decide_eq_true inside
      rw [FileTree.walk]
      simp [inside', notHere, notUp, Nat.not_lt.mpr short, found]
    | some node =>
      refine ⟨_, ?_, .inl rfl⟩
      have noLink := FileTree.noLinks_iff.mp plain _ _ found
      rw [FileTree.walk_of_step inside (.down notHere notUp short found noLink), FileTree.walk]
  obtain ⟨place, ended, which⟩ := ends
  have located : w.locate p = .ok place := by
    rw [locate, sound]
    exact (FileTree.follow_eq_ok_iff plain).mpr (steps.trans ended)
  rw [store, located]
  rcases which with rfl | rfl
  · have free : w.tree.isDirectory (parent ++ [name]) = false := decide_eq_false outside
    simp only [bind, Except.bind, free]
    exact ⟨_, rfl⟩
  · exact ⟨_, rfl⟩

theorem exists_rename {source target : Path} (plain : w.tree.NoLinks)
    (leads : w.lookup source = .ok (loc, .file content)) (h : w.Storable target) :
    ∃ w', w.rename source target = .ok w' := by
  obtain ⟨oldParent, oldName, reached, rfl, file⟩ := (lookup_file_iff plain).mp leads
  obtain ⟨⟨newParent, newName, reached'⟩, outside⟩ := h
  rw [(spot_of_locateEntry plain reached').1] at outside
  have free : w.tree.isDirectory (newParent ++ [newName]) = false := decide_eq_false outside
  have there : w.tree.node? (oldParent ++ [oldName]) = some (.file content) := by
    rw [FileTree.node?, if_neg (by simp), file]
  rw [rename, reached, reached']
  simp only [bind, Except.bind, there, free]
  exact ⟨_, rfl⟩

theorem storable_of_rename {source target : Path} (plain : w.tree.NoLinks)
    (moved : w.rename source target = .ok w') : w'.Storable target := by
  obtain ⟨reached, evolves, _⟩ := rename_eq_ok plain moved
  obtain ⟨content, _, _, room, rfl⟩ := of_rename_eq_ok plain moved
  refine ⟨evolves.reaches plain reached, ?_⟩
  exact FileTree.not_isDirectoryIn_of_file ((FileTree.get?_place room _ _).trans (if_pos rfl))

/-- What is there already is a file. -/
theorem Storable.exists_lookup (h : w.Storable p) (plain : w.tree.NoLinks)
    (there : w.pathExists p = true) : ∃ content, w.lookup p = .ok (p.spot w.here, .file content) := by
  unfold pathExists at there
  cases leads : w.lookup p with
  | error fault =>
    rw [leads] at there
    cases there
  | ok entry =>
    obtain ⟨loc, node⟩ := entry
    obtain rfl := spot_of_lookup plain leads
    obtain ⟨_, _, taken⟩ := lookup_eq_ok_iff.mp leads
    cases node with
    | directory => exact absurd (FileTree.isDirectoryIn_of_node? taken) h.outside
    | file content => exact ⟨content, rfl⟩
    | link target =>
      rw [FileTree.node?] at taken
      split at taken
      · cases taken
      · cases FileTree.noLinks_iff.mp plain _ _ taken

/-! ### Directories -/

theorem exists_lookup_of_makeDirectory (plain : w.tree.NoLinks)
    (made : w.makeDirectory p = .ok w') : ∃ loc, w'.lookup p = .ok (loc, .directory) := by
  obtain ⟨evolves, _⟩ := makeDirectory_eq_ok plain made
  obtain ⟨⟨parent, step⟩, reached, made⟩ := Outcome.except_bind_eq_ok_iff.mp made
  cases step with
  | noName => cases made
  | name name slash =>
    obtain ⟨_, inside, valid⟩ := spot_of_locateEntry plain reached
    obtain ⟨sound, arrives, _, last⟩ :=
      (locateEntry_eq_ok_iff evolves.noLinks).mp (evolves.locateEntry_eq_ok plain reached)
    obtain ⟨⟨before, names⟩, notHere, notUp, short, _⟩ := of_lastStepOf last
    dsimp only at made
    split at made
    · cases made
    next free =>
      obtain rfl := Except.ok.inj made
      have vacant : w.tree.nodes.get? (parent ++ [name]) = none := by
        rwa [FileTree.node?, if_neg (by simp)] at free
      have room := FileTree.hasRoom_concat inside valid (by simp [IsDirectoryIn, vacant])
      have found : (w.place (parent ++ [name]) .directory).tree.nodes.get? (parent ++ [name]) =
          some .directory := (FileTree.get?_place room _ _).trans (if_pos rfl)
      refine ⟨parent ++ [name], lookup_eq_ok_iff.mpr
        ⟨sound, (FileTree.follow_eq_ok_iff evolves.noLinks).mpr ?_, ?_⟩⟩
      · rw [names, List.dropLast_concat] at arrives
        rw [stepsOf_eq, names, List.append_assoc, FileTree.walk_append, arrives, Stretch.on,
          List.singleton_append, FileTree.walk_of_step (evolves.directories _ inside)
            (.down notHere notUp short found rfl)]
        -- A slash at the end stays in the directory.
        split
        · rw [FileTree.walk_of_step (.inr found) .stay, FileTree.walk]
        · rw [FileTree.walk]
      · rw [FileTree.node?, if_neg (by simp), found]

theorem exists_fault_of_makeDirectory (plain : w.tree.NoLinks)
    (leads : w.lookup p = .ok (loc, .directory)) : ∃ fault, w.makeDirectory p = .error fault := by
  cases made : w.makeDirectory p with
  | error fault => exact ⟨fault, rfl⟩
  | ok w' =>
    exfalso
    obtain ⟨_, _, taken⟩ := lookup_eq_ok_iff.mp leads
    have place := spot_of_lookup plain leads
    obtain ⟨⟨parent, step⟩, reached, made⟩ := Outcome.except_bind_eq_ok_iff.mp made
    cases step with
    | noName => cases made
    | name name slash =>
      rw [(spot_of_locateEntry plain reached).1] at place
      dsimp only at made
      rw [place, taken] at made
      cases made

end Workspace

open Workspace

variable {change : Change} {w w' : Workspace} {p : Path} {loc : Location}

/-- No change but one makes a directory. -/
theorem Change.isDirectoryIn_of_apply (plain : w.tree.NoLinks) (applied : change.apply w = .ok w')
    (other : ∀ path, change ≠ .makeDirectory path) (inside : IsDirectoryIn w'.tree.nodes loc) :
    IsDirectoryIn w.tree.nodes loc := by
  -- A file that is stored takes the place of no directory and makes none.
  have placed : ∀ {t : FileTree} {place : Location} {content : ByteArray}, t.HasRoom place →
      IsDirectoryIn (t.place place (.file content)).nodes loc → IsDirectoryIn t.nodes loc := by
    intro t place content room inside
    refine inside.imp_right fun found => ?_
    rw [FileTree.get?_place room] at found
    split at found
    · cases found
    · exact found
  cases change with
  | makeDirectory path => exact absurd rfl (other path)
  | copy source target =>
    obtain ⟨_, _, _, stored⟩ := copy_eq_ok applied
    obtain ⟨room, rfl⟩ := store_eq_ok plain stored
    exact placed room inside
  | create path =>
    obtain ⟨room, rfl⟩ := store_eq_ok plain applied
    exact placed room inside
  | write path content =>
    obtain ⟨room, rfl⟩ := write_eq_ok plain applied
    exact placed room inside
  | sync path =>
    change (w.lookup path).map _ = _ at applied
    cases found : w.lookup path with
    | error fault =>
      rw [found] at applied
      cases applied
    | ok entry =>
      rw [found] at applied
      obtain rfl := Except.ok.inj applied
      exact inside
  | rename source target =>
    obtain ⟨content, _, found, room, rfl⟩ := of_rename_eq_ok plain applied
    refine (placed room inside).imp_right fun directory => ?_
    rw [FileTree.get?_remove found] at directory
    split at directory
    · cases directory
    · exact directory

theorem Workspace.Storable.apply (h : w.Storable p) (plain : w.tree.NoLinks)
    (applied : change.apply w = .ok w') (other : ∀ path, change ≠ .makeDirectory path) :
    w'.Storable p := by
  obtain ⟨evolves, _⟩ := Change.apply_eq_ok plain applied
  refine ⟨evolves.reaches plain h.reaches, fun inside => h.outside ?_⟩
  rw [evolves.here_eq] at inside
  exact Change.isDirectoryIn_of_apply plain applied other inside

end SpecPrompt
