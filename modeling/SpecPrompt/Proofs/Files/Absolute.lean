import SpecPrompt.Proofs.Files.Growth

/-!
# Absolute paths and the directories above them

The absolute path of a directory leads to the directory, whatever spelling it was made from. The paths
above it are those of the directories above, nearest first, as long as it goes down at the end: a `..`
there leads up, while the path above it, which lacks the `..`, leads down again.

## Main results

- `length_spot_of_mem_ancestors`: the directories above a path are no deeper than the path.
- `spots_ancestors`: the paths above a path lead to the directories above it.
- `leadsIn_of_absolute`: where an absolute path leads.
-/

namespace SpecPrompt

namespace Path

variable {p above : Path}

theorem lead_eq_root_iff : p.lead = .root ↔ p.text.toList.head? = some '/' := by
  constructor
  · intro rooted
    unfold lead at rooted
    split at rooted
    next slashed => rw [slashed, List.head?_cons]
    · cases rooted
    · cases rooted
    · cases rooted
  · intro start
    obtain ⟨rest, slashed⟩ := List.head?_eq_some_iff.mp start
    rw [lead, slashed]
    rfl

theorem lead_join (rooted : p.lead = .root) (q : Path) : (p.join q).lead = .root := by
  have start := lead_eq_root_iff.mp rooted
  have filled : p.text.toList ≠ [] := by
    intro empty
    rw [empty] at start
    cases start
  unfold join
  split
  next other =>
    have other : q.isAbsolute = true ∨ p.text = "" := by simpa using other
    rcases other with absolute | empty
    · exact of_decide_eq_true absolute
    · simp [empty] at filled
  split
  · rw [lead_eq_root_iff, String.toList_append, List.head?_append_of_ne_nil _ filled, start]
  · rw [lead_eq_root_iff, String.toList_append, String.toList_append, List.append_assoc,
      List.head?_append_of_ne_nil _ filled, start]

theorem sameAs_self (p : Path) : p.sameAs p = true := by
  simp [sameAs]

theorem join_of_relative {q : Path} (relative : q.isAbsolute = false) (filled : p.text ≠ "") :
    p.join q = if p.text.toList.getLast? = some '/' then ⟨p.text ++ q.text⟩
      else ⟨p.text ++ "/" ++ q.text⟩ := by
  rw [join, relative, Bool.false_or, if_neg (by simpa using filled)]

theorem lead_of_absolute? {here whole : Path} (rooted : here.lead = .root)
    (h : p.absolute? here = some whole) : whole.lead = .root := by
  unfold absolute? at h
  split at h
  · cases h
  dsimp only at h
  have start : ∀ start names : Path, start.lead = .root →
      (if names.text.isEmpty then start else start.join names).lead = .root := by
    intro start names rooted
    split
    · exact rooted
    · exact lead_join rooted names
  split at h <;> rw [← Option.some.inj h]
  on_goal 1 => apply lead_join
  all_goals
    apply start
    split
    · rfl
    · rfl
    · rfl
    · exact rooted

theorem lead_of_absolute {w : Workspace} {whole : Path} (h : w.absolute p = .ok whole) :
    whole.lead = .root := by
  have rooted : w.herePath.lead = .root := by
    rw [lead_eq_root_iff, Workspace.herePath, String.toList_append]
    rfl
  unfold Workspace.absolute at h
  split at h
  next found =>
    rw [← Except.ok.inj h]
    exact lead_of_absolute? rooted found
  · cases h

theorem climb_cases (n : Nat) (p : Path) :
    ancestors.climb n p = [p] ∨
      ∃ parent m, p.parent? = some parent ∧ ancestors.climb n p = p :: ancestors.climb m parent := by
  cases n with
  | zero => exact .inl rfl
  | succ n =>
    rw [ancestors.climb]
    cases found : p.parent? with
    | none => exact .inl rfl
    | some parent => exact .inr ⟨parent, n, rfl, rfl⟩

theorem head?_ancestors (p : Path) : p.ancestors.head? = some p := by
  unfold ancestors
  rcases climb_cases p.text.length p with alone | ⟨_, _, _, more⟩
  · rw [alone, List.head?_cons]
  · rw [more, List.head?_cons]

theorem of_mem_ancestors (h : above ∈ p.ancestors.tail.take 2) :
    p.parent? = some above ∨
      ∃ parent, p.parent? = some parent ∧ parent.parent? = some above := by
  unfold ancestors at h
  rcases climb_cases p.text.length p with none | ⟨parent, m, found, first⟩
  · rw [none] at h
    cases h
  rw [first, List.tail_cons] at h
  rcases climb_cases m parent with none | ⟨grandparent, k, found', second⟩
  · rw [none] at h
    obtain rfl := List.mem_singleton.mp h
    exact .inl found
  · rw [second, List.take_succ_cons] at h
    rcases List.mem_cons.mp h with rfl | h
    · exact .inl found
    -- The second one comes first among what is left.
    · rcases climb_cases k grandparent with last | ⟨_, _, _, more⟩
      · rw [last] at h
        obtain rfl := List.mem_singleton.mp h
        exact .inr ⟨parent, found, found'⟩
      · rw [more] at h
        obtain rfl := List.mem_singleton.mp h
        exact .inr ⟨parent, found, found'⟩

theorem of_parent? {parent : Path} (rooted : p.lead = .root) (h : p.parent? = some parent) :
    parent.lead = .root ∧ ∃ last, p.components.getLast? = some last ∧
      ∀ here, p.spot here = enter (parent.spot here) (String.ofList last) := by
  obtain ⟨parent', before, last, found, same, above, kept⟩ :=
    exists_parent? (components_ne_nil_of_parent? h rooted)
  obtain rfl := Option.some.inj (h.symm.trans found)
  refine ⟨(kept rooted).1, last, by rw [same, List.getLast?_concat], fun here => ?_⟩
  rw [spot_eq, same, List.map_append, resolve_append, above]
  rfl

/-- Only a `..` at its end can lead a path above the directories that its text names. -/
theorem length_spot_of_mem_ancestors (rooted : p.lead = .root)
    (notUp : p.components.getLast? ≠ some ['.', '.']) (h : above ∈ p.ancestors.tail.take 2)
    (here : Location) : (above.spot here).length ≤ (p.spot here).length := by
  have parent_lt : ∀ parent, p.parent? = some parent →
      (parent.spot here).length + 1 = (p.spot here).length := by
    intro parent found
    obtain ⟨_, last, ends, leads⟩ := of_parent? rooted found
    have component : isComponent last = true :=
      (List.mem_filter.mp (List.mem_of_getLast? ends)).2
    have down : enter (parent.spot here) (String.ofList last) =
        parent.spot here ++ [String.ofList last] := by
      refine enter_of_ne ?_ ?_ _
      · intro dot
        rw [← String.toList_inj, String.toList_ofList] at dot
        rw [dot] at component
        cases component
      · intro up
        rw [← String.toList_inj, String.toList_ofList] at up
        rw [up] at ends
        exact notUp ends
    rw [leads here, down, List.length_append, List.length_singleton]
  rcases of_mem_ancestors h with found | ⟨parent, found, found'⟩
  · have near := parent_lt above found
    omega
  · have near := parent_lt parent found
    -- The second step may lead up, but no more than the first one leads down.
    obtain ⟨_, last, _, leads⟩ := of_parent? (of_parent? rooted found).1 found'
    have far := length_enter (above.spot here) (String.ofList last)
    rw [← leads here] at far
    omega

/-! ### The names of an absolute path -/

theorem names_join {q : Path} (filled : p.text ≠ "") (relative : q.isAbsolute = false)
    (here : Location) :
    startOf here (p.join q).text = startOf here p.text ∧
      namesOf (p.join q).text.toList = namesOf p.text.toList ++ namesOf q.text.toList := by
  have start : p.text.toList ≠ [] := by simpa using filled
  rw [join_of_relative relative filled]
  split
  -- A slash at the end goes before what is joined.
  next slash =>
    obtain ⟨before, same⟩ := List.getLast?_eq_some_iff.mp slash
    have own : namesOf p.text.toList = namesOf before := by
      rw [same, namesOf_append]
      exact List.append_nil _
    refine ⟨?_, ?_⟩
    · rw [startOf, startOf, String.toList_append, List.head?_append_of_ne_nil _ start]
    · rw [own, String.toList_append, same, List.append_assoc, List.singleton_append, namesOf_append]
  · have whole : (p.text ++ "/" ++ q.text).toList = p.text.toList ++ '/' :: q.text.toList := by simp
    refine ⟨?_, ?_⟩
    · rw [startOf, startOf, whole, List.head?_append_of_ne_nil _ start]
    · rw [whole, namesOf_append]

theorem components_join {q : Path} (filled : p.text ≠ "") (relative : q.isAbsolute = false) :
    (p.join q).components.map String.ofList =
      p.components.map String.ofList ++ (namesOf q.text.toList).filter (· != ".") := by
  rw [← filter_namesOf, ← filter_namesOf, (names_join filled relative []).2, List.filter_append]

/-- A path to which a name is joined takes the steps of the path, and its last one through the name. -/
theorem names_join_step (p : Path) {name : String} (h : IsStep name) (here : Location) :
    startOf here (p.join ⟨name⟩).text = startOf here p.text ∧
      namesOf (p.join ⟨name⟩).text.toList = namesOf p.text.toList ++ [name] ∧
      (p.join ⟨name⟩).text.toList.getLast? ≠ some '/' := by
  have filled : name.toList ≠ [] := by simpa using h.filled
  have ends : (p.join ⟨name⟩).text.toList.getLast? = name.toList.getLast? := by
    unfold join
    split
    · rfl
    split
    · rw [String.toList_append, List.getLast?_append_of_ne_nil _ filled]
    · rw [String.toList_append, List.getLast?_append_of_ne_nil _ filled]
  have noSlash : (p.join ⟨name⟩).text.toList.getLast? ≠ some '/' := by
    rw [ends]
    exact fun last => h.noSlash (List.mem_of_getLast? last)
  by_cases empty : p.text = ""
  · have alone : p.join ⟨name⟩ = ⟨name⟩ := by simp [join, empty]
    have start : name.toList.head? ≠ some '/' := fun first => h.noSlash (List.mem_of_head? first)
    rw [alone] at noSlash ⊢
    refine ⟨?_, ?_, noSlash⟩
    · rw [empty, startOf, if_neg start]
      rfl
    · rw [empty, h.namesOf_eq]
      rfl
  · obtain ⟨start, names⟩ := names_join empty h.isAbsolute_eq here
    exact ⟨start, by rw [names, h.namesOf_eq], noSlash⟩

/-- Only the names of its components can bring a character with them that no path has. -/
theorem nul_not_mem_of_components
    (h : ∀ name ∈ p.components.map String.ofList, Char.ofNat 0 ∉ name.toList) :
    Char.ofNat 0 ∉ p.text.toList := by
  intro inside
  rw [toList_text, List.mem_append] at inside
  rcases inside with lead | inside
  · revert lead
    cases p.lead <;> decide
  rcases Chars.mem_of_mem_intercalate inside with slash | ⟨piece, listed, inside⟩
  · exact absurd slash (by decide)
  -- A piece with another character than a dot is a component, which names something.
  have component : isComponent piece = true := by
    have filled : piece ≠ [] := by
      rintro rfl
      cases inside
    have other : piece ≠ ['.'] := by
      rintro rfl
      exact absurd inside (by decide)
    simp [isComponent, filled, other]
  have named : String.ofList piece ∈ p.components.map String.ofList :=
    List.mem_map_of_mem (List.mem_filter.mpr ⟨listed, component⟩)
  exact h _ named (by rwa [String.toList_ofList])

private theorem fits_components (p : Path) : Fits .none p.components := by
  left
  intro empty
  have component := (List.mem_filter.mp (List.mem_of_head? empty)).2
  cases component

/-- The components of a path, without its lead, are a path again. -/
theorem ofPieces_components (p : Path) :
    (ofPieces .none p.components).isAbsolute = false ∧
      (namesOf (ofPieces .none p.components).text.toList).filter (· != ".") =
        p.components.map String.ofList := by
  have noSlash : ∀ piece ∈ p.components, '/' ∉ piece := fun piece listed =>
    not_slash_mem_of_mem_pieces (List.mem_of_mem_filter listed)
  refine ⟨isAbsolute_of_head? fun slash => ?_, ?_⟩
  -- A path that starts at the root would not start elsewhere.
  · have start := startOf_ofPieces p.fits_components noSlash ["x"]
    rw [startOf, if_pos slash] at start
    cases start
  · rw [filter_namesOf_ofPieces p.fits_components noSlash, componentNames, components,
      List.filter_filter]
    simp only [Bool.and_self]

/-- An absolute path has the components of the current directory, unless the path it is made from
starts at the root, and then those of that path. -/
theorem components_of_absolute? {here whole : Path} (rooted : here.lead = .root)
    (h : p.absolute? here = some whole) :
    whole.components.map String.ofList =
      (if p.lead = .root then [] else here.components.map String.ofList) ++
        p.components.map String.ofList := by
  have filled : here.text ≠ "" := by
    intro empty
    have slash := lead_eq_root_iff.mp rooted
    rw [empty] at slash
    cases slash
  obtain ⟨relative, names⟩ := p.ofPieces_components
  have joined : ∀ start : Path, start.text ≠ "" →
      (if (ofPieces .none p.components).text.isEmpty then start
        else start.join (ofPieces .none p.components)).text ≠ "" ∧
      (if (ofPieces .none p.components).text.isEmpty then start
        else start.join (ofPieces .none p.components)).components.map String.ofList =
        start.components.map String.ofList ++ p.components.map String.ofList := by
    intro start filled
    split
    next empty =>
      have none : p.components.map String.ofList = [] := by
        rw [← names, String.isEmpty_iff.mp empty]
        rfl
      exact ⟨filled, by rw [none, List.append_nil]⟩
    · refine ⟨?_, by rw [components_join filled relative, names]⟩
      rw [join_of_relative relative filled]
      split <;> simp [filled]
  unfold absolute? at h
  split at h
  · cases h
  dsimp only at h
  have ended : ∀ start : Path, start.text ≠ "" →
      (if p.text.toList.getLast? = some '/' then some (start.join ⟨""⟩) else some start) =
        some whole →
      whole.components.map String.ofList = start.components.map String.ofList := by
    intro start filled same
    split at same
    · rw [← Option.some.inj same, components_join filled (by decide)]
      exact List.append_nil _
    · rw [← Option.some.inj same]
  have from_start : ∀ start : Path, start.text ≠ "" ∧ start.components.map String.ofList =
        (if p.lead = .root then [] else here.components.map String.ofList) →
      (if p.text.toList.getLast? = some '/' then
          some ((if (ofPieces .none p.components).text.isEmpty then start
            else start.join (ofPieces .none p.components)).join ⟨""⟩)
        else some (if (ofPieces .none p.components).text.isEmpty then start
            else start.join (ofPieces .none p.components))) = some whole →
      whole.components.map String.ofList =
        (if p.lead = .root then [] else here.components.map String.ofList) ++
          p.components.map String.ofList := by
    rintro start ⟨filled, components⟩ same
    rw [ended _ (joined start filled).1 same, (joined start filled).2, components]
  -- A path starts with one slash, with two, or with more, or it continues the current directory.
  have slashed : ∀ rest, p.text.toList = '/' :: rest → p.lead = .root := fun rest same =>
    lead_eq_root_iff.mpr (by rw [same]; rfl)
  refine from_start _ ?_ h
  split
  next same => exact ⟨by decide, by rw [if_pos (slashed _ same)]; rfl⟩
  next same => exact ⟨by decide, by rw [if_pos (slashed _ same)]; rfl⟩
  next same => exact ⟨by decide, by rw [if_pos (slashed _ same)]; rfl⟩
  next relative =>
    have other : p.lead ≠ .root := by
      intro rooted
      obtain ⟨rest, slash⟩ := List.head?_eq_some_iff.mp (lead_eq_root_iff.mp rooted)
      exact relative rest slash
    exact ⟨filled, by rw [if_neg other]⟩

/-- A path that starts at the root has no fewer characters than components, its slash apart. -/
theorem length_components_lt (rooted : p.lead = .root) :
    p.components.length < p.text.length := by
  have few : ∀ pieces : List (List Char),
      (pieces.filter isComponent).length ≤ (['/'].intercalate pieces).length := by
    intro pieces
    induction pieces with
    | nil => exact Nat.le_refl _
    | cons piece pieces ih =>
      have own : (if isComponent piece then 1 else 0) ≤ piece.length := by
        split
        next component =>
          refine List.length_pos_iff.mpr fun empty => ?_
          rw [empty] at component
          cases component
        · omega
      have longer : piece.length + (['/'].intercalate pieces).length ≤
          (['/'].intercalate (piece :: pieces)).length := by
        rcases eq_or_ne pieces [] with rfl | more
        · simp
        · rw [List.intercalate_cons_of_ne_nil more]
          simp only [List.length_append]
          omega
      rw [List.filter_cons]
      split <;> simp_all only [List.length_cons, if_true] <;> omega
  have := few p.pieces
  have whole := congrArg List.length p.toList_text
  rw [rooted, List.length_append, String.length_toList] at whole
  simp only [Lead.chars, List.length_singleton] at whole
  rw [components]
  omega

end Path

/-- The nearest directories above a location, `count` of them unless the root comes first. -/
def directoriesAbove : (count : Nat) → Location → List Location
  | 0, _ => []
  | count + 1, loc => if loc = [] then [] else loc.dropLast :: directoriesAbove count loc.dropLast

namespace Path

variable {p : Path}

theorem parent?_eq_none (rooted : p.lead = .root) (none : p.components = []) :
    p.parent? = Option.none := by
  cases found : p.parent? with
  | none => rfl
  | some parent => exact absurd none (components_ne_nil_of_parent? found rooted)

private theorem spots_climb (rooted : p.lead = .root) (here : Location) (count fuel : Nat)
    (notUp : ['.', '.'] ∉ p.components.reverse.take count)
    (enough : p.components.length ≤ fuel) :
    ((ancestors.climb fuel p).tail.take count).map (·.spot here) =
      directoriesAbove count (p.spot here) := by
  -- Each directory above takes one count and one of the steps that may be climbed.
  induction count generalizing p fuel with
  | zero => rfl
  | succ count ih =>
    rcases eq_or_ne p.components [] with none | more
    · have top : p.spot here = [] := by
        rw [spot_eq, rooted, none]
        rfl
      rw [top, directoriesAbove, if_pos rfl]
      cases fuel with
      | zero => rfl
      | succ fuel =>
        rw [ancestors.climb, parent?_eq_none rooted none]
        rfl
    · obtain ⟨parent, before, last, found, same, above, kept⟩ := exists_parent? more
      obtain ⟨rooted', components⟩ := kept rooted
      rw [same] at notUp enough
      rw [List.reverse_concat, List.take_succ_cons, List.mem_cons, not_or] at notUp
      rw [List.length_append, List.length_singleton] at enough
      obtain ⟨fuel, rfl⟩ : ∃ fewer, fuel = fewer + 1 := ⟨fuel - 1, by omega⟩
      have down : p.spot here = parent.spot here ++ [String.ofList last] := by
        have component : isComponent last = true := by
          have listed : last ∈ p.components := by simp [same]
          exact (List.mem_filter.mp listed).2
        rw [spot_eq, same, List.map_append, resolve_append, above]
        refine enter_of_ne ?_ ?_ _
        · intro dot
          rw [← String.toList_inj, String.toList_ofList] at dot
          rw [dot] at component
          cases component
        · intro up
          rw [← String.toList_inj, String.toList_ofList] at up
          exact notUp.1 up.symm
      have climbed : ancestors.climb fuel parent =
          parent :: (ancestors.climb fuel parent).tail := by
        rcases climb_cases fuel parent with alone | ⟨_, _, _, first⟩
        · rw [alone]
          rfl
        · rw [first]
          rfl
      rw [ancestors.climb, found]
      dsimp only
      rw [List.tail_cons, climbed, List.take_succ_cons, List.map_cons,
        ih rooted' fuel (by rw [components]; exact notUp.2) (by rw [components]; omega), down,
        directoriesAbove, if_neg (by simp), List.dropLast_concat]

/-- The paths above an absolute path, as many as are asked for, lead to the directories above it if
the path goes down that far at its end. -/
theorem spots_ancestors (rooted : p.lead = .root) (count : Nat)
    (notUp : ['.', '.'] ∉ p.components.reverse.take count) (here : Location) :
    (p.ancestors.tail.take count).map (·.spot here) = directoriesAbove count (p.spot here) := by
  have few := length_components_lt rooted
  exact spots_climb rooted here count p.text.length notUp (by omega)

end Path

/-! ### Where an absolute path leads -/

namespace FileTree

variable {t : FileTree} {loc loc' : Location} {name : String} {names : List String}

theorem isName_of_walk (arrives : t.walk loc names = .ended (.occupied loc')) :
    ∀ name ∈ names, name = "." ∨ name = ".." ∨ IsName name := by
  induction names generalizing loc with
  | nil => exact nofun
  | cons first names ih =>
    rcases of_walk_cons arrives with ⟨_, vacant, _⟩ | ⟨_, next, step, onward⟩
    · cases vacant
    intro name listed
    rcases List.mem_cons.mp listed with rfl | listed
    · cases step with
      | stay => exact .inl rfl
      | up => exact .inr (.inl rfl)
      | down _ _ _ found => exact .inr (.inr (t.named _ _ found name (by simp)))
    · exact ih onward name listed

theorem nul_not_mem_of_walk (arrives : t.walk loc names = .ended (.occupied loc'))
    (listed : name ∈ names) : Char.ofNat 0 ∉ name.toList := by
  rcases isName_of_walk arrives name listed with rfl | rfl | valid
  · decide
  · decide
  · exact valid.2.1.2

/-- Steps that stay do no harm on the way to a directory. -/
theorem walk_of_filter (arrives : t.walk loc (names.filter (· != ".")) = .ended (.occupied loc'))
    (inside : IsDirectoryIn t.nodes loc') : t.walk loc names = .ended (.occupied loc') := by
  induction names generalizing loc with
  | nil => exact arrives
  | cons name names ih =>
    by_cases here : name = "."
    · subst here
      rw [walk_of_step (isDirectoryIn_of_walk arrives inside) .stay]
      exact ih arrives
    · rw [List.filter_cons_of_pos (by simpa using here)] at arrives
      rcases of_walk_cons arrives with ⟨_, vacant, _⟩ | ⟨start, next, step, onward⟩
      · cases vacant
      · rw [walk_of_step start step]
        exact ih onward

/-- From the root, the names of a directory's location lead to it. -/
theorem walk_location (inside : IsDirectoryIn t.nodes loc) :
    t.walk [] loc = .ended (.occupied loc) := by
  rcases inside with rfl | directory
  · rw [walk]
  · exact walk_beneath (.inl rfl) directory (fun _ => by simp)

end FileTree

namespace Workspace

variable {w : Workspace} {p root whole : Path} {loc d : Location}

/-- The components of an absolute path lead from the root to the directory at its spot. -/
structure LeadsIn (w : Workspace) (p : Path) : Prop where
  rooted : p.lead = .root
  inside : IsDirectoryIn w.tree.nodes (p.spot w.here)
  arrives : w.tree.walk [] (p.components.map String.ofList) = .ended (.occupied (p.spot w.here))

theorem leadsIn_of_walk (rooted : p.lead = .root) (inside : IsDirectoryIn w.tree.nodes loc)
    (arrives : w.tree.walk [] (p.components.map String.ofList) = .ended (.occupied loc)) :
    w.LeadsIn p ∧ p.spot w.here = loc := by
  have spot : p.spot w.here = loc := by
    rw [Path.spot_eq, rooted]
    exact FileTree.resolve_of_walk arrives
  exact ⟨⟨rooted, by rwa [spot], by rwa [spot]⟩, spot⟩

theorem LeadsIn.parent (h : w.LeadsIn p) {above : Path} (found : p.parent? = some above) :
    w.LeadsIn above := by
  obtain ⟨parent', before, last, found', same, _, kept⟩ :=
    Path.exists_parent? (Path.components_ne_nil_of_parent? found h.rooted)
  obtain rfl := Option.some.inj (found.symm.trans found')
  obtain ⟨rooted, components⟩ := kept h.rooted
  have arrives := h.arrives
  rw [same, List.map_append, List.map_singleton] at arrives
  obtain ⟨_, onward, inside, _⟩ := FileTree.of_walk_concat arrives
  rw [← components] at onward
  exact (leadsIn_of_walk rooted inside onward).1

theorem LeadsIn.ancestor (h : w.LeadsIn p) {above : Path}
    (listed : above ∈ p.ancestors.tail.take 2) : w.LeadsIn above := by
  rcases Path.of_mem_ancestors listed with found | ⟨between, found, found'⟩
  · exact h.parent found
  · exact (h.parent found).parent found'

theorem LeadsIn.nul_not_mem (h : w.LeadsIn p) : Char.ofNat 0 ∉ p.text.toList :=
  Path.nul_not_mem_of_components fun _ named => FileTree.nul_not_mem_of_walk h.arrives named

/-- An absolute path that leads to a directory is a path of that directory unless it is too long. -/
theorem LeadsIn.lookup_eq (h : w.LeadsIn p) (short : p.text.utf8ByteSize < pathLimit) :
    w.lookup p = .ok (p.spot w.here, .directory) := by
  have filled : p.text ≠ "" := by
    intro empty
    have slash := Path.lead_eq_root_iff.mp h.rooted
    rw [empty] at slash
    cases slash
  have start : startOf w.here p.text = [] := by
    rw [Path.startOf_text, h.rooted]
    rfl
  have arrives := h.arrives
  rw [← Path.filter_stepsOf] at arrives
  have walked := FileTree.walk_of_filter arrives h.inside
  refine lookup_eq_ok_iff.mpr ⟨checkText_eq_ok_iff.mpr ⟨filled, h.nul_not_mem, short⟩, ?_, ?_⟩
  · rw [start, FileTree.follow, walked]
  · rw [FileTree.node?]
    split
    · rfl
    next below => exact h.inside.resolve_left below

theorem namesOf_herePath (h : ∀ name ∈ w.here, IsName name) :
    w.herePath.components.map String.ofList = w.here := by
  have names : namesOf w.herePath.text.toList = w.here := by
    have text : w.herePath.text.toList = [] ++ '/' :: ("/".intercalate w.here).toList := by
      rw [herePath, String.toList_append]
      rfl
    rw [text, namesOf_append, namesOf_intercalate h]
    rfl
  rw [← Path.filter_namesOf, names, List.filter_eq_self]
  exact fun name listed => by simpa using (h name listed).1.2.1

/-- However a directory is spelled, its absolute path leads to it. -/
theorem leadsIn_of_absolute (plain : w.tree.NoLinks) (directory : w.lookup root = .ok (d, .directory))
    (absolute : w.absolute root = .ok whole) : w.LeadsIn whole ∧ whole.spot w.here = d := by
  obtain ⟨_, follows, there⟩ := lookup_eq_ok_iff.mp directory
  rw [FileTree.follow_eq_ok_iff plain] at follows
  have inside := FileTree.isDirectoryIn_of_node? there
  have undotted : (Stretch.ended (.occupied d)).undotted = .ended (.occupied d) := rfl
  have arrives := FileTree.walk_filter (by rw [follows]; trivial)
  rw [Path.filter_stepsOf, follows, undotted, Path.startOf_text] at arrives
  have rooted := Path.lead_of_absolute absolute
  refine leadsIn_of_walk rooted inside ?_
  have found : root.absolute? w.herePath = some whole := by
    unfold Workspace.absolute at absolute
    split at absolute
    next found => rw [found, Except.ok.inj absolute]
    · cases absolute
  have here : w.herePath.lead = .root := by
    rw [Path.lead_eq_root_iff, herePath, String.toList_append]
    rfl
  rw [Path.components_of_absolute? here found]
  split
  next own =>
    rw [own] at arrives
    exact arrives
  -- The walk through the root starts in the current directory, so this is one.
  next other =>
    have start : root.lead.start w.here = w.here := by
      cases lead : root.lead with
      | root => exact absurd lead other
      | here => rfl
      | none => rfl
    rw [start] at arrives
    have current := FileTree.isDirectoryIn_of_walk arrives inside
    rw [namesOf_herePath (FileTree.isName_of_isDirectoryIn current), FileTree.walk_append,
      FileTree.walk_location current]
    exact arrives

end Workspace

end SpecPrompt
