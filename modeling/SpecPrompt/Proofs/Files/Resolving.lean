import SpecPrompt.Proofs.Files.Entries

/-!
# Where names lead

Names lead from one location to another name by name, and where a link stands, along its target. This is
said without a limit, with the number of links on the way. A walk that may follow some number of links
arrives if there are no more of them than that. The way through a path is the way through its start and
then through its end, and the links on both count.

## Main results

- `follow_iff_resolves`: where a walk arrives.
- `isFile_join_iff_resolves`: when a path beneath a directory leads to a file.
-/

namespace SpecPrompt

namespace FileTree

/-- The names lead from one location to another, along `n` links. -/
inductive Resolves (t : FileTree) : (n : Nat) → Location → List String → Location → Prop
  | done {loc : Location} : Resolves t 0 loc [] loc
  | step {n : Nat} {loc next target : Location} {name : String} {names : List String}
      (inside : IsDirectoryIn t.nodes loc) (step : t.Step loc name next)
      (rest : Resolves t n next names target) : Resolves t n loc (name :: names) target
  | link {n : Nat} {loc target : Location} {name text : String} {names : List String}
      (found : t.nodes.get? (loc ++ [name]) = some (.link text))
      (rest : Resolves t n (startOf loc text) (stepsOf text ++ names) target) :
      Resolves t (n + 1) loc (name :: names) target

variable {t t' : FileTree} {loc loc' loc'' next : Location} {name text : String}
  {names rest : List String} {links m n k : Nat}

/-! ### The way of a walk -/

theorem resolves_of_walk (arrives : t.walk loc names = .ended (.occupied loc')) :
    t.Resolves 0 loc names loc' := by
  induction names generalizing loc with
  | nil =>
    rw [walk] at arrives
    obtain rfl := Place.occupied.inj (Stretch.ended.inj arrives)
    exact .done
  | cons name names ih =>
    rcases of_walk_cons arrives with ⟨_, vacant, _⟩ | ⟨inside, next, step, onward⟩
    · cases vacant
    · exact .step inside step (ih onward)

theorem resolves_of_atLink {parent : Location} (stops : t.walk loc names = .atLink parent text rest)
    (onward : t.Resolves n (startOf parent text) (stepsOf text ++ rest) loc') :
    t.Resolves (n + 1) loc names loc' := by
  induction names generalizing loc with
  | nil =>
    rw [walk] at stops
    cases stops
  | cons name names ih =>
    rcases walk_cons_cases t loc name names with
      ⟨fault, failed⟩ | ⟨target, found, stopped⟩ | ⟨_, _, ended⟩ | ⟨inside, next, step⟩
    · rw [failed] at stops
      cases stops
    · rw [stopped] at stops
      cases stops
      exact .link found onward
    · rw [ended] at stops
      cases stops
    · rw [walk_of_step inside step] at stops
      exact .step inside step (ih stops)

theorem Resolves.follow_eq_ok (way : t.Resolves n loc names loc') (few : n ≤ links) :
    t.follow links loc names = .ok (.occupied loc') := by
  induction way generalizing links with
  | done => rw [follow, walk]
  | step inside step _ ih =>
    rw [follow, walk_of_step inside step, ← follow.eq_1]
    exact ih few
  | link found _ ih =>
    obtain ⟨links, rfl⟩ := Nat.exists_eq_add_of_le' (Nat.le_of_add_left_le few)
    rw [follow, walk_of_link found]
    exact ih (by omega)

/-- A walk arrives where the names lead along no more links than it may follow. -/
theorem follow_iff_resolves :
    t.follow links loc names = .ok (.occupied loc') ↔ ∃ n ≤ links, t.Resolves n loc names loc' := by
  constructor
  · intro arrives
    refine follow_induction (P := fun links loc names => ∃ n ≤ links, t.Resolves n loc names loc')
      ?_ ?_ arrives
    · intro links loc names ended
      exact ⟨0, Nat.zero_le _, resolves_of_walk ended⟩
    · rintro links loc names parent text rest stops ⟨n, few, way⟩
      exact ⟨n + 1, by omega, resolves_of_atLink stops way⟩
  · rintro ⟨n, few, way⟩
    exact way.follow_eq_ok few

/-! ### Ways through more names -/

theorem Step.unique (step : t.Step loc name next) (step' : t.Step loc name loc') : next = loc' := by
  rw [← step.enter_eq, step'.enter_eq]

theorem Step.not_link (step : t.Step loc name next) :
    t.nodes.get? (loc ++ [name]) ≠ some (.link text) := by
  intro found
  have valid : IsName name := t.named _ _ found name (by simp)
  cases step with
  | stay => exact valid.1.2.1 rfl
  | up => exact valid.1.2.2 rfl
  | down _ _ _ here noLink =>
    rw [here] at found
    obtain rfl := Option.some.inj found
    cases noLink

theorem resolves_cons_of_step (inside : IsDirectoryIn t.nodes loc) (step : t.Step loc name next) :
    t.Resolves n loc (name :: names) loc' ↔ t.Resolves n next names loc' := by
  constructor
  · intro way
    cases way with
    | step _ step' onward => exact step.unique step' ▸ onward
    | link found => exact absurd found step.not_link
  · exact .step inside step

theorem resolves_cons_of_link (found : t.nodes.get? (loc ++ [name]) = some (.link text)) :
    t.Resolves n loc (name :: names) loc' ↔
      ∃ k, n = k + 1 ∧ t.Resolves k (startOf loc text) (stepsOf text ++ names) loc' := by
  constructor
  · intro way
    cases way with
    | step _ step => exact absurd found step.not_link
    | link found' onward =>
      rw [found] at found'
      cases found'
      exact ⟨_, rfl, onward⟩
  · rintro ⟨k, rfl, onward⟩
    exact .link found onward

/-- Where names and a final `.` lead, the way goes on through more names, and the links on both parts
count. -/
theorem resolves_append {ending : List String} (h : IsEnding ending)
    (way : t.Resolves m loc (names ++ ending) loc') :
    t.Resolves k loc (names ++ rest) loc'' ↔ ∃ n, k = m + n ∧ t.Resolves n loc' rest loc'' := by
  generalize whole : names ++ ending = steps at way
  -- A link puts its target's names in front, so the induction is over every list of names.
  induction way generalizing names k with
  | done =>
    obtain ⟨rfl, -⟩ := List.append_eq_nil_iff.mp whole
    simp
  | @step n loc next target name steps inside step onward ih =>
    cases names with
    | nil =>
      rcases h with rfl | rfl
      · cases whole
      · obtain ⟨rfl, rfl⟩ := List.cons.inj whole
        obtain rfl := step.unique .stay
        cases onward
        simp
    | cons first names =>
      rw [List.cons_append, List.cons.injEq] at whole
      obtain ⟨rfl, whole⟩ := whole
      rw [List.cons_append, resolves_cons_of_step inside step]
      exact ih whole
  | @link n loc target name text steps found onward ih =>
    cases names with
    | nil =>
      rcases h with rfl | rfl
      · cases whole
      · obtain ⟨rfl, rfl⟩ := List.cons.inj whole
        exact absurd rfl (t.named _ _ found "." (by simp)).1.2.1
    | cons first names =>
      rw [List.cons_append, List.cons.injEq] at whole
      obtain ⟨rfl, rfl⟩ := whole
      rw [List.cons_append, resolves_cons_of_link found]
      simp only [← List.append_assoc, ih (List.append_assoc _ names ending)]
      constructor
      · rintro ⟨_, rfl, j, rfl, way⟩
        exact ⟨j, by omega, way⟩
      · rintro ⟨j, rfl, way⟩
        exact ⟨n + j, by omega, j, rfl, way⟩

end FileTree

namespace Workspace

variable {w : Workspace} {root : Path} {loc : Location} {names : List String}

theorem node?_eq_file_iff {t : FileTree} {content : ByteArray} :
    t.node? loc = some (.file content) ↔ t.nodes.get? loc = some (.file content) := by
  rw [FileTree.node?]
  split
  next root =>
    constructor
    · intro directory
      cases directory
    · intro found
      exact absurd root (t.rooted loc _ found).1
  · rfl

/-- The path of some names beneath a directory leads to a file if it is short enough, the names lead to a
file, and there are not too many links on the way to the directory and from there. -/
theorem isFile_join_iff_resolves (directory : w.lookup root = .ok (loc, .directory)) (more : names ≠ [])
    (valid : ∀ name ∈ names, IsName name) :
    w.isFile (root.join ⟨"/".intercalate names⟩) = true ↔
      (root.join ⟨"/".intercalate names⟩).text.utf8ByteSize < pathLimit ∧
        ∃ m n there content, w.tree.Resolves m (startOf w.here root.text) (stepsOf root.text) loc ∧
          w.tree.Resolves n loc names there ∧ m + n ≤ linkLimit ∧
          w.tree.nodes.get? there = some (.file content) := by
  obtain ⟨sound, arrives, -⟩ := lookup_eq_ok_iff.mp directory
  obtain ⟨filled, noNul, -⟩ := checkText_eq_ok_iff.mp sound
  have noNul' := nul_not_mem_join filled valid noNul
  have filled' : (root.join ⟨"/".intercalate names⟩).text ≠ "" := by
    obtain ⟨before, same, _⟩ := toList_join filled valid
    intro empty
    simp [empty] at same
  have ending : FileTree.IsEnding (if root.text.toList.getLast? = some '/' then ["."] else []) := by
    split
    · exact .inr rfl
    · exact .inl rfl
  simp only [isFile_iff, lookup_eq_ok_iff, checkText_eq_ok_iff, startOf_join filled valid,
    stepsOf_join filled more valid, FileTree.follow_iff_resolves, node?_eq_file_iff]
  rw [stepsOf_eq] at arrives ⊢
  constructor
  · rintro ⟨there, content, ⟨-, -, short⟩, ⟨k, few, way⟩, found⟩
    obtain ⟨m, -, start⟩ := FileTree.follow_iff_resolves.mp arrives
    obtain ⟨n, rfl, onward⟩ := (FileTree.resolves_append ending start).mp way
    exact ⟨short, m, n, there, content, start, onward, few, found⟩
  · rintro ⟨short, m, n, there, content, start, onward, few, found⟩
    have way := (FileTree.resolves_append ending start).mpr ⟨n, rfl, onward⟩
    exact ⟨there, content, ⟨filled', noNul', short⟩, ⟨m + n, few, way⟩, found⟩

end Workspace

end SpecPrompt
