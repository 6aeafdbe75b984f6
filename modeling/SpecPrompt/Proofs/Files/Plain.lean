import SpecPrompt.Proofs.Files.Spot
import SpecPrompt.Proofs.Outcome

/-!
# Trees without links

In a tree without links a walk goes nowhere but where its names lead. What a path reads there is
the regular file at its spot, if the directory of that file can be reached. More directories let a
path reach no less.

Each name of a walk is a `Step` that stays, leads up or leads down; what a walk does follows by
induction from what its first step does.

## Main results

- `walk_cons_cases`: what one name of a walk can lead to.
- `readBytes_eq_ok_iff`: what a path reads.
- `Evolves.locateEntry_eq_ok`: directories that stay keep what a path reaches.
-/

namespace SpecPrompt

/-- Whether a node is a symbolic link. -/
def Node.isLink : Node → Bool
  | .link _ => true
  | _ => false

namespace FileTree

/-- No node of the tree is a link. -/
def NoLinks (t : FileTree) : Prop :=
  ∀ entry ∈ t.nodes.toList, entry.2.isLink = false

instance (t : FileTree) : Decidable t.NoLinks :=
  inferInstanceAs (Decidable (∀ entry ∈ t.nodes.toList, entry.2.isLink = false))

/-- The content of the regular file at `loc`. -/
def file? (t : FileTree) (loc : Location) : Option ByteArray :=
  match t.nodes.get? loc with
  | some (.file content) => some content
  | _ => none

variable {t t' : FileTree} {loc loc' parent : Location} {name : String} {names : List String}

theorem noLinks_iff :
    t.NoLinks ↔ ∀ loc node, t.nodes.get? loc = some node → node.isLink = false := by
  constructor
  · intro plain loc node found
    exact plain (loc, node) (SortedMap.mem_toList_iff.mpr found)
  · intro plain entry listed
    exact plain entry.1 entry.2 (SortedMap.mem_toList_iff.mp listed)

theorem file?_eq_some_iff {content : ByteArray} :
    t.file? loc = some content ↔ t.nodes.get? loc = some (.file content) := by
  unfold file?
  split
  next found => simp [found]
  next other => exact ⟨nofun, fun found => absurd found (other content)⟩

theorem not_isDirectoryIn_of_file {content : ByteArray}
    (found : t.nodes.get? loc = some (.file content)) : ¬ IsDirectoryIn t.nodes loc := by
  rintro (root | directory)
  · exact (t.rooted loc _ found).1 root
  · rw [found] at directory
    cases directory

theorem isDirectoryIn_dropLast (h : IsDirectoryIn t.nodes loc) :
    IsDirectoryIn t.nodes loc.dropLast := by
  rcases h with rfl | directory
  · exact .inl rfl
  · exact (t.rooted loc _ directory).2

theorem isName_of_isDirectoryIn (h : IsDirectoryIn t.nodes loc) : ∀ name ∈ loc, IsName name := by
  rcases h with rfl | directory
  · exact nofun
  · exact t.named loc _ directory

/-! ### Steps of a walk -/

/-- A step through one name, from a directory to where it leads without a link. -/
inductive Step (t : FileTree) (loc : Location) : String → Location → Prop
  | stay : Step t loc "." loc
  | up : Step t loc ".." loc.dropLast
  | down {name : String} {node : Node} (notHere : name ≠ ".") (notUp : name ≠ "..")
      (short : name.utf8ByteSize ≤ longestName)
      (found : t.nodes.get? (loc ++ [name]) = some node) (noLink : node.isLink = false) :
      Step t loc name (loc ++ [name])

/-- What holds of a name under which a walk finds nothing in a directory. -/
structure IsFree (t : FileTree) (parent : Location) (name : String) : Prop where
  inside : IsDirectoryIn t.nodes parent
  vacant : t.nodes.get? (parent ++ [name]) = none
  notHere : name ≠ "."
  notUp : name ≠ ".."
  short : name.utf8ByteSize ≤ longestName

theorem Step.enter_eq (step : t.Step loc name loc') : enter loc name = loc' := by
  cases step with
  | stay => rfl
  | up => rfl
  | down notHere notUp => exact enter_of_ne notHere notUp loc

theorem walk_of_step (inside : IsDirectoryIn t.nodes loc) (step : t.Step loc name loc') :
    t.walk loc (name :: names) = t.walk loc' names := by
  have inside' : t.isDirectory loc = true := decide_eq_true inside
  rw [walk, inside', if_neg (by simp)]
  cases step with
  | stay => rfl
  | up => rfl
  | @down _ node notHere notUp short found noLink =>
    rw [if_neg notHere, if_neg notUp, if_neg (by omega), found]
    cases node with
    | file content => rfl
    | directory => rfl
    | link target => cases noLink

/-- All that one name of a walk can lead to. -/
theorem walk_cons_cases (t : FileTree) (loc : Location) (name : String) (names : List String) :
    (∃ fault, t.walk loc (name :: names) = .failed fault) ∨
      (∃ target, t.nodes.get? (loc ++ [name]) = some (.link target) ∧
        t.walk loc (name :: names) = .atLink loc target names) ∨
      (names = [] ∧ t.IsFree loc name ∧
        t.walk loc (name :: names) = .ended (.vacant loc name)) ∨
      (IsDirectoryIn t.nodes loc ∧ ∃ loc', t.Step loc name loc') := by
  by_cases inside : IsDirectoryIn t.nodes loc
  case neg =>
    left
    rw [walk, isDirectory, decide_eq_false inside]
    exact ⟨_, rfl⟩
  have inside' : t.isDirectory loc = true := decide_eq_true inside
  -- From here on the cases are those of the walk, in its order.
  by_cases here : name = "."
  · subst here
    exact .inr (.inr (.inr ⟨inside, _, .stay⟩))
  by_cases up : name = ".."
  · subst up
    exact .inr (.inr (.inr ⟨inside, _, .up⟩))
  rw [walk, inside', if_neg (by simp), if_neg here, if_neg up]
  by_cases long : longestName < name.utf8ByteSize
  · rw [if_pos long]
    exact .inl ⟨_, rfl⟩
  rw [if_neg long]
  have short : name.utf8ByteSize ≤ longestName := by omega
  cases found : t.nodes.get? (loc ++ [name]) with
  | none =>
    cases names with
    | nil => exact .inr (.inr (.inl ⟨rfl, ⟨inside, found, here, up, short⟩, rfl⟩))
    | cons next names => exact .inl ⟨_, rfl⟩
  | some node =>
    cases node with
    | link target => exact .inr (.inl ⟨target, rfl, rfl⟩)
    | file content => exact .inr (.inr (.inr ⟨inside, _, .down here up short found rfl⟩))
    | directory => exact .inr (.inr (.inr ⟨inside, _, .down here up short found rfl⟩))

/-- A walk that ends takes a step and goes on, or finds nothing under its last name. -/
theorem of_walk_cons {place : Place} (arrives : t.walk loc (name :: names) = .ended place) :
    (names = [] ∧ place = .vacant loc name ∧ t.IsFree loc name) ∨
      (IsDirectoryIn t.nodes loc ∧ ∃ loc', t.Step loc name loc' ∧
        t.walk loc' names = .ended place) := by
  rcases walk_cons_cases t loc name names with
    ⟨fault, failed⟩ | ⟨target, _, stopped⟩ | ⟨last, free, ended⟩ | ⟨inside, loc', step⟩
  · rw [failed] at arrives
    cases arrives
  · rw [stopped] at arrives
    cases arrives
  · rw [ended] at arrives
    exact .inl ⟨last, (Stretch.ended.inj arrives).symm, free⟩
  · rw [walk_of_step inside step] at arrives
    exact .inr ⟨inside, loc', step, arrives⟩

/-! ### Walks -/

theorem resolve_of_walk (arrives : t.walk loc names = .ended (.occupied loc')) :
    resolve loc names = loc' := by
  induction names generalizing loc with
  | nil =>
    rw [walk] at arrives
    exact Place.occupied.inj (Stretch.ended.inj arrives)
  | cons name names ih =>
    rcases of_walk_cons arrives with ⟨_, vacant, _⟩ | ⟨_, next, step, onward⟩
    · cases vacant
    · rw [resolve_cons, step.enter_eq, ih onward]

theorem of_walk_vacant (arrives : t.walk loc names = .ended (.vacant parent name)) :
    resolve loc names = parent ++ [name] ∧ name ∈ names ∧ t.IsFree parent name := by
  induction names generalizing loc with
  | nil =>
    rw [walk] at arrives
    cases arrives
  | cons first names ih =>
    rcases of_walk_cons arrives with ⟨rfl, same, free⟩ | ⟨_, next, step, onward⟩
    · obtain ⟨rfl, rfl⟩ := Place.vacant.inj same
      exact ⟨enter_of_ne free.notHere free.notUp parent, by simp, free⟩
    · obtain ⟨leads, listed, free⟩ := ih onward
      rw [resolve_cons, step.enter_eq]
      exact ⟨leads, List.mem_cons_of_mem _ listed, free⟩

/-- A walk to something takes its last step from a directory. -/
theorem of_walk_concat (arrives : t.walk loc (names ++ [name]) = .ended (.occupied loc')) :
    ∃ parent, t.walk loc names = .ended (.occupied parent) ∧ IsDirectoryIn t.nodes parent ∧
      t.Step parent name loc' := by
  rw [walk_append] at arrives
  cases walked : t.walk loc names with
  | failed fault => simp [walked, Stretch.on] at arrives
  | atLink parent target rest => simp [walked, Stretch.on] at arrives
  | ended place =>
    cases place with
    | vacant parent free => simp [walked, Stretch.on] at arrives
    | occupied parent =>
      rw [walked] at arrives
      rcases of_walk_cons arrives with ⟨_, vacant, _⟩ | ⟨inside, next, step, onward⟩
      · cases vacant
      · rw [walk] at onward
        obtain rfl := Place.occupied.inj (Stretch.ended.inj onward)
        exact ⟨parent, rfl, inside, step⟩

theorem isDirectoryIn_of_walk (arrives : t.walk loc names = .ended (.occupied loc'))
    (inside : IsDirectoryIn t.nodes loc') : IsDirectoryIn t.nodes loc := by
  cases names with
  | nil =>
    rw [walk] at arrives
    obtain rfl := Place.occupied.inj (Stretch.ended.inj arrives)
    exact inside
  | cons name names =>
    rcases of_walk_cons arrives with ⟨_, vacant, _⟩ | ⟨start, _⟩
    · cases vacant
    · exact start

/-- A walk that ends in a directory takes the same way where all directories stay. -/
theorem walk_of_directories (arrives : t.walk loc names = .ended (.occupied loc'))
    (inside : IsDirectoryIn t.nodes loc')
    (stay : ∀ loc, IsDirectoryIn t.nodes loc → IsDirectoryIn t'.nodes loc) :
    t'.walk loc names = .ended (.occupied loc') := by
  induction names generalizing loc with
  | nil =>
    rw [walk] at arrives ⊢
    exact arrives
  | cons name names ih =>
    rcases of_walk_cons arrives with ⟨_, vacant, _⟩ | ⟨start, next, step, onward⟩
    · cases vacant
    have step' : t'.Step loc name next := by
      cases step with
      | stay => exact .stay
      | up => exact .up
      | down notHere notUp short =>
        -- The walk goes on from here or ends here, so this is a directory.
        have there := stay _ (isDirectoryIn_of_walk onward inside)
        exact .down notHere notUp short (there.resolve_left (by simp)) rfl
    rw [walk_of_step (stay loc start) step', ih onward]

section

variable (plain : t.NoLinks)
include plain

theorem walk_ne_atLink (loc : Location) (names : List String) (target : String)
    (rest : List String) : t.walk loc names ≠ .atLink parent target rest := by
  induction names generalizing loc with
  | nil => simp [walk]
  | cons name names ih =>
    rcases walk_cons_cases t loc name names with
      ⟨fault, failed⟩ | ⟨_, found, _⟩ | ⟨_, _, ended⟩ | ⟨inside, next, step⟩
    · simp [failed]
    · cases noLinks_iff.mp plain _ _ found
    · simp [ended]
    · rw [walk_of_step inside step]
      exact ih next

theorem follow_eq_ok_iff {links : Nat} {place : Place} :
    t.follow links loc names = .ok place ↔ t.walk loc names = .ended place := by
  cases walked : t.walk loc names with
  | ended reached => simp [follow, walked]
  | failed fault => simp [follow, walked]
  | atLink parent target rest => exact absurd walked (walk_ne_atLink plain loc names target rest)

end

end FileTree

/-! ### The last step of a path -/

theorem exists_piece_of_mem_namesOf {cs : List Char} {name : String} (h : name ∈ namesOf cs) :
    name ≠ "" ∧ '/' ∉ name.toList ∧ ∀ c ∈ name.toList, c ∈ cs := by
  rw [namesOf, List.mem_map] at h
  obtain ⟨piece, kept, rfl⟩ := h
  obtain ⟨listed, filled⟩ := List.mem_filter.mp kept
  rw [String.toList_ofList]
  have whole : ['/'].intercalate (cs.splitOn '/') = cs := List.intercalate_splitOn '/'
  refine ⟨by simpa using filled, Chars.not_mem_of_mem_splitOn listed, fun c inside => ?_⟩
  rw [← whole]
  exact Chars.mem_intercalate_of_mem listed inside

theorem namesOf_ne_nil {cs : List Char} (filled : cs ≠ []) (noSlash : cs.getLast? ≠ some '/') :
    namesOf cs ≠ [] := by
  obtain ⟨before, c, rfl⟩ := (List.eq_nil_or_concat' cs).resolve_left filled
  have other : c ∉ ['/'] := by
    rw [List.getLast?_concat] at noSlash
    simpa using noSlash
  have within : c ∈ ['/'].intercalate ((before ++ [c]).splitOn '/') := by
    rw [List.intercalate_splitOn]
    simp
  obtain ⟨piece, listed, inside⟩ := (Chars.mem_of_mem_intercalate within).resolve_left other
  intro none
  rw [namesOf, List.map_eq_nil_iff, List.filter_eq_nil_iff] at none
  have empty : piece = [] := by simpa using none piece listed
  rw [empty] at inside
  cases inside

theorem stepsOf_ne_nil {text : String} (filled : text ≠ "") : stepsOf text ≠ [] := by
  rw [stepsOf_eq]
  split
  · simp
  next noSlash => simpa using namesOf_ne_nil (by simpa using filled) noSlash

/-- The last step of a path, as its text alone tells. -/
def lastStepOf (text : String) : Except Fault LastStep :=
  match (namesOf text.toList).getLast? with
  | none => .ok .noName
  | some name =>
    if name = "." || name = ".." then .ok .noName
    else if longestName < name.utf8ByteSize then .error .nameTooLong
    else .ok (.name name (text.toList.getLast? = some '/'))

theorem of_lastStepOf {text name : String} {slash : Bool}
    (h : lastStepOf text = .ok (.name name slash)) :
    (∃ before, namesOf text.toList = before ++ [name]) ∧ name ≠ "." ∧ name ≠ ".." ∧
      name.utf8ByteSize ≤ longestName ∧ slash = decide (text.toList.getLast? = some '/') := by
  unfold lastStepOf at h
  split at h
  · cases h
  next last found =>
    split at h
    · cases h
    next other =>
      split at h
      · cases h
      next short =>
        cases h
        simp only [Bool.or_eq_true, decide_eq_true_eq, not_or] at other
        exact ⟨List.getLast?_eq_some_iff.mp found, other.1, other.2, by omega, rfl⟩

namespace Workspace

variable {w w' : Workspace} {p : Path} {loc parent : Location} {name : String}

theorem resolve_stepsOf (p : Path) (here : Location) :
    resolve (startOf here p.text) (stepsOf p.text) = p.spot here := by
  rw [stepsOf_eq, resolve_append]
  split <;> rfl

theorem isName_of_mem_namesOf (sound : checkText p = .ok ()) (listed : name ∈ namesOf p.text.toList)
    (notHere : name ≠ ".") (notUp : name ≠ "..") (short : name.utf8ByteSize ≤ longestName) :
    IsName name := by
  obtain ⟨filled, noSlash, among⟩ := exists_piece_of_mem_namesOf listed
  have noNul := (checkText_eq_ok_iff.mp sound).2.1
  exact ⟨⟨filled, notHere, notUp⟩, ⟨noSlash, fun inside => noNul (among _ inside)⟩, short⟩

/-- Whether the last name of a path is looked up in a directory, with no slash after it. -/
def Reaches (w : Workspace) (p : Path) : Prop :=
  ∃ parent name, w.locateEntry p = .ok (parent, .name name false)

theorem readBytes_of_lookup {content : ByteArray} (h : w.lookup p = .ok (loc, .file content)) :
    w.readBytes p = .ok content := by
  rw [readBytes, h]
  rfl

theorem exists_lookup_of_readBytes {content : ByteArray} (h : w.readBytes p = .ok content) :
    ∃ loc, w.lookup p = .ok (loc, .file content) := by
  obtain ⟨⟨loc, node⟩, found, reads⟩ := Outcome.except_bind_eq_ok_iff.mp h
  cases node with
  | file bytes =>
    obtain rfl := Except.ok.inj reads
    exact ⟨loc, found⟩
  | directory => cases reads
  | link target => cases reads

theorem locateEntry_eq (w : Workspace) (p : Path) :
    w.locateEntry p = checkText p >>= fun _ =>
      w.tree.follow linkLimit (startOf w.here p.text) (namesOf p.text.toList).dropLast >>=
        fun place => match place with
          | .vacant _ _ => .error .missing
          | .occupied parent =>
            if !w.tree.isDirectory parent then .error .notDirectory
            else (lastStepOf p.text).map fun step => (parent, step) := by
  unfold locateEntry lastStepOf
  refine bind_congr fun _ => ?_
  refine bind_congr fun place => ?_
  cases place with
  | vacant _ _ => rfl
  | occupied parent =>
    dsimp only
    split
    · rfl
    change (match (namesOf p.text.toList).getLast? with | none => _ | some name => _) = _
    split
    · rfl
    split
    · rfl
    split <;> rfl

section

variable (plain : w.tree.NoLinks)
include plain

theorem locateEntry_eq_ok_iff {step : LastStep} :
    w.locateEntry p = .ok (parent, step) ↔ checkText p = .ok () ∧
      w.tree.walk (startOf w.here p.text) (namesOf p.text.toList).dropLast =
        .ended (.occupied parent) ∧
      IsDirectoryIn w.tree.nodes parent ∧ lastStepOf p.text = .ok step := by
  rw [locateEntry_eq]
  simp only [Outcome.except_bind_eq_ok_iff, FileTree.follow_eq_ok_iff plain]
  constructor
  · rintro ⟨_, sound, place, arrives, ends⟩
    cases place with
    | vacant _ _ => cases ends
    | occupied above =>
      dsimp only at ends
      split at ends
      · cases ends
      next inside =>
        have inside : IsDirectoryIn w.tree.nodes above := by
          simpa [FileTree.isDirectory] using inside
        cases last : lastStepOf p.text with
        | error fault => simp [last, Except.map] at ends
        | ok reached =>
          obtain ⟨rfl, rfl⟩ : above = parent ∧ reached = step := by
            simpa [last, Except.map] using ends
          exact ⟨sound, arrives, inside, rfl⟩
  · rintro ⟨sound, arrives, inside, last⟩
    have inside' : w.tree.isDirectory parent = true := decide_eq_true inside
    refine ⟨(), sound, .occupied parent, arrives, ?_⟩
    simp [inside', last, Except.map]

theorem spot_of_locateEntry {slash : Bool}
    (h : w.locateEntry p = .ok (parent, .name name slash)) :
    p.spot w.here = parent ++ [name] ∧ IsDirectoryIn w.tree.nodes parent ∧ IsName name := by
  obtain ⟨sound, arrives, inside, last⟩ := (locateEntry_eq_ok_iff plain).mp h
  obtain ⟨⟨before, names⟩, notHere, notUp, short, _⟩ := of_lastStepOf last
  have listed : name ∈ namesOf p.text.toList := by simp [names]
  refine ⟨?_, inside, isName_of_mem_namesOf sound listed notHere notUp short⟩
  rw [names, List.dropLast_concat] at arrives
  rw [Path.spot, names, resolve_append, FileTree.resolve_of_walk arrives, resolve_cons, resolve_nil,
    enter_of_ne notHere notUp]

theorem fileName?_of_locateEntry {slash : Bool}
    (h : w.locateEntry p = .ok (parent, .name name slash)) : p.fileName? = some name := by
  obtain ⟨_, _, _, last⟩ := (locateEntry_eq_ok_iff plain).mp h
  obtain ⟨⟨before, names⟩, notHere, notUp, _⟩ := of_lastStepOf last
  have listed := p.filter_namesOf
  rw [names, List.filter_append, List.filter_singleton, bne_iff_ne.mpr notHere, cond_true] at listed
  have ends : (p.components.map String.ofList).getLast? = some name := by
    rw [← listed, List.getLast?_concat]
  rw [List.getLast?_map, Option.map_eq_some_iff] at ends
  obtain ⟨component, found, rfl⟩ := ends
  have notUp : component ≠ ['.', '.'] := by
    rintro rfl
    exact notUp rfl
  rw [Path.fileName?, found]
  exact if_neg notUp

theorem spot_of_lookup {node : Node} (h : w.lookup p = .ok (loc, node)) :
    p.spot w.here = loc := by
  obtain ⟨_, arrives, _⟩ := lookup_eq_ok_iff.mp h
  rw [FileTree.follow_eq_ok_iff plain] at arrives
  rw [← resolve_stepsOf, FileTree.resolve_of_walk arrives]

/-- A path leads to a regular file if it reaches the file's name in its directory. -/
theorem lookup_file_iff {content : ByteArray} :
    w.lookup p = .ok (loc, .file content) ↔
      ∃ parent name, w.locateEntry p = .ok (parent, .name name false) ∧ parent ++ [name] = loc ∧
        w.tree.nodes.get? loc = some (.file content) := by
  rw [lookup_eq_ok_iff, FileTree.follow_eq_ok_iff plain]
  constructor
  · rintro ⟨sound, arrives, there⟩
    have found : w.tree.nodes.get? loc = some (.file content) := by
      unfold FileTree.node? at there
      split at there
      · cases there
      · exact there
    have outside := FileTree.not_isDirectoryIn_of_file found
    rw [stepsOf_eq] at arrives
    split at arrives
    -- A slash at the end asks for a directory.
    next slash =>
      obtain ⟨parent, _, inside, step⟩ := FileTree.of_walk_concat arrives
      rw [← step.enter_eq] at outside
      exact absurd inside outside
    next noSlash =>
      rw [List.append_nil] at arrives
      have filled : p.text.toList ≠ [] := by simpa using (checkText_eq_ok_iff.mp sound).1
      obtain ⟨before, name, names⟩ :=
        (List.eq_nil_or_concat' _).resolve_left (namesOf_ne_nil filled noSlash)
      rw [names] at arrives
      obtain ⟨parent, above, inside, step⟩ := FileTree.of_walk_concat arrives
      cases step with
      | stay => exact absurd inside outside
      | up => exact absurd (FileTree.isDirectoryIn_dropLast inside) outside
      | down notHere notUp short =>
        refine ⟨parent, name, (locateEntry_eq_ok_iff plain).mpr ⟨sound, ?_, inside, ?_⟩, rfl, found⟩
        · rw [names, List.dropLast_concat]
          exact above
        · rw [lastStepOf, names, List.getLast?_concat]
          dsimp only
          rw [if_neg (by simp [notHere, notUp]), if_neg (by omega), decide_eq_false noSlash]
  · rintro ⟨parent, name, reached, rfl, found⟩
    obtain ⟨sound, above, inside, last⟩ := (locateEntry_eq_ok_iff plain).mp reached
    obtain ⟨⟨before, names⟩, notHere, notUp, short, noSlash⟩ := of_lastStepOf last
    have noSlash : p.text.toList.getLast? ≠ some '/' := of_decide_eq_false noSlash.symm
    rw [names, List.dropLast_concat] at above
    refine ⟨sound, ?_, ?_⟩
    · rw [stepsOf_eq, if_neg noSlash, List.append_nil, names, FileTree.walk_append, above,
        Stretch.on, FileTree.walk_of_step inside (.down notHere notUp short found rfl),
        FileTree.walk]
    · rw [FileTree.node?, if_neg (by simp), found]

/-- A path reads the regular file at its spot, if it reaches it. -/
theorem readBytes_eq_ok_iff {content : ByteArray} :
    w.readBytes p = .ok content ↔ w.Reaches p ∧ w.tree.file? (p.spot w.here) = some content := by
  constructor
  · intro reads
    obtain ⟨loc, found⟩ := exists_lookup_of_readBytes reads
    obtain ⟨parent, name, reached, rfl, file⟩ := (lookup_file_iff plain).mp found
    refine ⟨⟨parent, name, reached⟩, ?_⟩
    rwa [spot_of_lookup plain found, FileTree.file?_eq_some_iff]
  · rintro ⟨⟨parent, name, reached⟩, file⟩
    rw [(spot_of_locateEntry plain reached).1, FileTree.file?_eq_some_iff] at file
    exact readBytes_of_lookup ((lookup_file_iff plain).mpr ⟨parent, name, reached, rfl, file⟩)

end

/-- The content of the file at a path, if there is one. -/
def fileAt (w : Workspace) (p : Path) : Option ByteArray :=
  (w.readBytes p).toOption

theorem fileAt_of_reaches (plain : w.tree.NoLinks) (reached : w.Reaches p) :
    w.fileAt p = w.tree.file? (p.spot w.here) := by
  cases reads : w.readBytes p with
  | ok content =>
    rw [fileAt, reads, ((readBytes_eq_ok_iff plain).mp reads).2]
    rfl
  | error fault =>
    rw [fileAt, reads]
    cases file : w.tree.file? (p.spot w.here) with
    | none => rfl
    | some content =>
      rw [(readBytes_eq_ok_iff plain).mpr ⟨reached, file⟩] at reads
      cases reads

theorem fileAt_of_not_reaches (plain : w.tree.NoLinks) (missed : ¬ w.Reaches p) :
    w.fileAt p = none := by
  cases reads : w.readBytes p with
  | ok content => exact absurd ((readBytes_eq_ok_iff plain).mp reads).1 missed
  | error fault =>
    rw [fileAt, reads]
    rfl

/-! ### Workspaces that change -/

/-- What a workspace keeps while its files change. -/
structure Evolves (w w' : Workspace) : Prop where
  here_eq : w'.here = w.here
  noLinks : w'.tree.NoLinks
  directories : ∀ loc, IsDirectoryIn w.tree.nodes loc → IsDirectoryIn w'.tree.nodes loc

namespace Evolves

variable {w'' : Workspace}

theorem refl (plain : w.tree.NoLinks) : w.Evolves w :=
  ⟨rfl, plain, fun _ => id⟩

theorem trans (h : w.Evolves w') (h' : w'.Evolves w'') : w.Evolves w'' :=
  ⟨h'.here_eq.trans h.here_eq, h'.noLinks, fun loc inside => h'.directories loc (h.directories loc inside)⟩

theorem locateEntry_eq_ok (h : w.Evolves w') (plain : w.tree.NoLinks) {step : LastStep}
    (reached : w.locateEntry p = .ok (parent, step)) : w'.locateEntry p = .ok (parent, step) := by
  obtain ⟨sound, arrives, inside, last⟩ := (locateEntry_eq_ok_iff plain).mp reached
  refine (locateEntry_eq_ok_iff h.noLinks).mpr ⟨sound, ?_, h.directories _ inside, last⟩
  rw [h.here_eq]
  exact FileTree.walk_of_directories arrives inside h.directories

theorem reaches (h : w.Evolves w') (plain : w.tree.NoLinks) (reached : w.Reaches p) :
    w'.Reaches p := by
  obtain ⟨parent, name, found⟩ := reached
  exact ⟨parent, name, h.locateEntry_eq_ok plain found⟩

end Evolves

end Workspace

end SpecPrompt
