import SpecPrompt.Proofs.Files.Changes

/-!
# Trees that grow

Files and directories that are added take nothing away: where a path led before, it leads to the same
node afterwards, whatever links are on its way. Only a path that led nowhere may come to lead
somewhere.

Paths with the same components differ by a `.` or a final slash at most. Such a path may lead nowhere
where the other one leads to a file, but never to another place.

## Main results

- `Grows.lookup_eq_ok`: what a path leads to stays.
- `location_eq_of_sameAs`: where paths with the same components lead.
-/

namespace SpecPrompt

/-- The walk comes to something that is there. -/
def Stretch.Arrives : Stretch → Prop
  | .ended (.occupied _) | .atLink _ _ _ => True
  | .ended (.vacant _ _) | .failed _ => False

/-- A stretch without the steps left that stay where they are. -/
def Stretch.undotted : Stretch → Stretch
  | .atLink parent target rest => .atLink parent target (rest.filter (· != "."))
  | stretch => stretch

/-- A node without the content it has if it is a file. -/
def Node.emptied : Node → Node
  | .file _ => .file .empty
  | node => node

namespace FileTree

/-- All that `t` holds is in `t'` too. -/
def Grows (t t' : FileTree) : Prop :=
  ∀ loc node, t.nodes.get? loc = some node → t'.nodes.get? loc = some node

/-- All that `t` holds is in `t'` too, but for the content of files. -/
def Retains (t t' : FileTree) : Prop :=
  ∀ loc node, t.nodes.get? loc = some node →
    (t'.nodes.get? loc).map Node.emptied = some node.emptied

variable {t t' : FileTree} {loc loc' loc'' : Location} {name : String} {names names' : List String}
  {links : Nat}

theorem walk_of_link {target : String} (found : t.nodes.get? (loc ++ [name]) = some (.link target)) :
    t.walk loc (name :: names) = .atLink loc target names := by
  have valid : IsName name := t.named _ _ found name (by simp)
  have inside := (t.rooted _ _ found).2
  rw [List.dropLast_concat] at inside
  have inside' : t.isDirectory loc = true := decide_eq_true inside
  rw [walk, inside', if_neg (by simp), if_neg valid.1.2.1, if_neg valid.1.2.2,
    if_neg valid.not_longer, found]

/-- What holds of a walk that ends somewhere, and stays if a link is followed before, holds of every
walk along links that ends there. -/
theorem follow_induction {place : Place} {P : Nat → Location → List String → Prop}
    (ends : ∀ links loc names, t.walk loc names = .ended place → P links loc names)
    (turns : ∀ links loc names parent target rest, t.walk loc names = .atLink parent target rest →
      P links (startOf parent target) (stepsOf target ++ rest) → P (links + 1) loc names)
    (follows : t.follow links loc names = .ok place) : P links loc names := by
  induction links generalizing loc names with
  | zero =>
    rw [follow] at follows
    cases walked : t.walk loc names with
    | failed fault => simp [walked] at follows
    | atLink parent target rest => simp [walked] at follows
    | ended reached =>
      rw [walked] at follows
      exact ends 0 loc names (by rw [walked, Except.ok.inj follows])
  | succ links ih =>
    rw [follow] at follows
    cases walked : t.walk loc names with
    | failed fault => simp [walked] at follows
    | ended reached =>
      rw [walked] at follows
      exact ends (links + 1) loc names (by rw [walked, Except.ok.inj follows])
    | atLink parent target rest =>
      rw [walked] at follows
      exact turns links loc names parent target rest walked (ih follows)

theorem arrives_of_follow (arrives : t.follow links loc names = .ok (.occupied loc')) :
    (t.walk loc names).Arrives := by
  cases walked : t.walk loc names with
  | failed fault => cases links <;> simp [follow, walked] at arrives
  | atLink parent target rest => trivial
  | ended place =>
    have ends : place = .occupied loc' := by cases links <;> simpa [follow, walked] using arrives
    rw [ends]
    trivial

namespace Retains

theorem trans {t'' : FileTree} (h : t.Retains t') (h' : t'.Retains t'') : t.Retains t'' := by
  intro loc node found
  obtain ⟨node', found', same⟩ := Option.map_eq_some_iff.mp (h loc node found)
  rw [h' loc node' found', same]

theorem isDirectoryIn (retains : t.Retains t') (inside : IsDirectoryIn t.nodes loc) :
    IsDirectoryIn t'.nodes loc := by
  refine inside.imp_right fun directory => ?_
  obtain ⟨node, found, same⟩ := Option.map_eq_some_iff.mp (retains loc _ directory)
  cases node with
  | directory => exact found
  | file content => cases same
  | link target => cases same

theorem link (retains : t.Retains t') {target : String}
    (found : t.nodes.get? loc = some (.link target)) : t'.nodes.get? loc = some (.link target) := by
  obtain ⟨node, found', same⟩ := Option.map_eq_some_iff.mp (retains loc _ found)
  cases node with
  | directory => cases same
  | file content => cases same
  | link target' =>
    cases same
    exact found'

theorem file (retains : t.Retains t') {content : ByteArray}
    (found : t.nodes.get? loc = some (.file content)) :
    ∃ content', t'.nodes.get? loc = some (.file content') := by
  obtain ⟨node, found', same⟩ := Option.map_eq_some_iff.mp (retains loc _ found)
  cases node with
  | directory => cases same
  | file content' => exact ⟨content', found'⟩
  | link target => cases same

theorem step (retains : t.Retains t') (step : t.Step loc name loc') : t'.Step loc name loc' := by
  cases step with
  | stay => exact .stay
  | up => exact .up
  | @down _ node notHere notUp short found noLink =>
    obtain ⟨node', found', same⟩ := Option.map_eq_some_iff.mp (retains _ _ found)
    refine .down notHere notUp short found' ?_
    cases node' with
    | link target => cases node <;> cases same; cases noLink
    | directory => rfl
    | file content => rfl

theorem walk_eq (retains : t.Retains t') (arrives : (t.walk loc names).Arrives) :
    t'.walk loc names = t.walk loc names := by
  induction names generalizing loc with
  | nil => rw [walk, walk]
  | cons name names ih =>
    rcases walk_cons_cases t loc name names with
      ⟨fault, failed⟩ | ⟨target, found, stopped⟩ | ⟨_, _, ended⟩ | ⟨inside, next, step⟩
    · rw [failed] at arrives
      exact arrives.elim
    · rw [stopped, walk_of_link (retains.link found)]
    -- A walk that arrives finds something under its last name.
    · rw [ended] at arrives
      exact arrives.elim
    · rw [walk_of_step inside step] at arrives ⊢
      rw [walk_of_step (retains.isDirectoryIn inside) (retains.step step)]
      exact ih arrives

theorem follow_eq_ok (retains : t.Retains t')
    (arrives : t.follow links loc names = .ok (.occupied loc')) :
    t'.follow links loc names = .ok (.occupied loc') := by
  refine follow_induction (P := fun links loc names =>
    t'.follow links loc names = .ok (.occupied loc')) (fun links loc names walked => ?_)
    (fun links loc names parent target rest walked onward => ?_) arrives
  · rw [follow, retains.walk_eq (by rw [walked]; trivial), walked]
  · rw [follow, retains.walk_eq (by rw [walked]; trivial), walked]
    exact onward

end Retains

namespace Grows

theorem trans {t'' : FileTree} (h : t.Grows t') (h' : t'.Grows t'') : t.Grows t'' :=
  fun loc node found => h' loc node (h loc node found)

theorem retains (grows : t.Grows t') : t.Retains t' := by
  intro loc node found
  rw [grows loc node found]
  rfl

theorem follow_eq_ok (grows : t.Grows t')
    (arrives : t.follow links loc names = .ok (.occupied loc')) :
    t'.follow links loc names = .ok (.occupied loc') :=
  grows.retains.follow_eq_ok arrives

theorem node?_eq_some (grows : t.Grows t') {node : Node} (found : t.node? loc = some node) :
    t'.node? loc = some node := by
  unfold node? at found ⊢
  split at found
  next root => rwa [if_pos root]
  next below =>
    rw [if_neg below]
    exact grows _ _ found

theorem toList_eq (grows : t.Grows t') :
    t.nodes.toList = t'.nodes.toList.filter fun entry => (t.nodes.get? entry.1).isSome := by
  -- Both list their entries in the order of the locations, so it is enough to look each one up.
  have kept : t.nodes = t'.nodes.filterKeys fun loc => (t.nodes.get? loc).isSome := by
    apply SortedMap.ext_get?
    intro loc
    rw [SortedMap.get?_filterKeys]
    cases found : t.nodes.get? loc with
    | none => rfl
    | some node => exact (grows loc node found).symm
  exact congrArg SortedMap.toList kept

end Grows

/-! ### Steps that stay -/

theorem walk_filter (arrives : (t.walk loc names).Arrives) :
    t.walk loc (names.filter (· != ".")) = (t.walk loc names).undotted := by
  induction names generalizing loc with
  | nil =>
    rw [List.filter_nil, walk]
    rfl
  | cons name names ih =>
    rcases walk_cons_cases t loc name names with
      ⟨fault, failed⟩ | ⟨target, found, stopped⟩ | ⟨_, _, ended⟩ | ⟨inside, next, step⟩
    · rw [failed] at arrives
      exact arrives.elim
    · have valid : IsName name := t.named _ _ found name (by simp)
      rw [List.filter_cons_of_pos (by simpa using valid.1.2.1), walk_of_link found, stopped]
      rfl
    · rw [ended] at arrives
      exact arrives.elim
    · rw [walk_of_step inside step] at arrives ⊢
      by_cases here : name = "."
      · subst here
        obtain rfl : loc = next := step.enter_eq
        exact ih arrives
      · rw [List.filter_cons_of_pos (by simpa using here), walk_of_step inside step]
        exact ih arrives

theorem walks_of_filter_eq (arrives : (t.walk loc names).Arrives)
    (arrives' : (t.walk loc names').Arrives)
    (same : names.filter (· != ".") = names'.filter (· != ".")) :
    (∃ place, t.walk loc names = .ended place ∧ t.walk loc names' = .ended place) ∨
      ∃ parent target rest rest', t.walk loc names = .atLink parent target rest ∧
        t.walk loc names' = .atLink parent target rest' ∧
        rest.filter (· != ".") = rest'.filter (· != ".") := by
  have undotted := walk_filter arrives
  rw [same, walk_filter arrives'] at undotted
  cases walked : t.walk loc names with
  | failed fault =>
    rw [walked] at arrives
    exact arrives.elim
  | ended place => cases walked' : t.walk loc names' <;> simp_all [Stretch.undotted]
  | atLink parent target rest => cases walked' : t.walk loc names' <;> simp_all [Stretch.undotted]

/-- Walks that differ in the steps that stay come to one place, if both arrive. -/
theorem location_eq_of_follow (arrives : t.follow links loc names = .ok (.occupied loc'))
    (arrives' : t.follow links loc names' = .ok (.occupied loc''))
    (same : names.filter (· != ".") = names'.filter (· != ".")) : loc' = loc'' := by
  induction links generalizing loc names names' with
  | zero =>
    have walks := walks_of_filter_eq (arrives_of_follow arrives) (arrives_of_follow arrives') same
    rw [follow] at arrives arrives'
    rcases walks with ⟨place, walked, walked'⟩ | ⟨parent, target, rest, rest', walked, _, _⟩
    · rw [walked] at arrives
      rw [walked'] at arrives'
      exact Place.occupied.inj (Except.ok.inj (arrives.symm.trans arrives'))
    · rw [walked] at arrives
      cases arrives
  | succ links ih =>
    have walks := walks_of_filter_eq (arrives_of_follow arrives) (arrives_of_follow arrives') same
    rw [follow] at arrives arrives'
    rcases walks with
      ⟨place, walked, walked'⟩ | ⟨parent, target, rest, rest', walked, walked', same⟩
    · rw [walked] at arrives
      rw [walked'] at arrives'
      exact Place.occupied.inj (Except.ok.inj (arrives.symm.trans arrives'))
    -- Both walks stop at one link, whose target stands before what is left of each.
    · rw [walked] at arrives
      rw [walked'] at arrives'
      apply ih arrives arrives'
      rw [List.filter_append, List.filter_append, same]

end FileTree

namespace Path

variable {p q : Path}

theorem startOf_text (p : Path) (here : Location) : startOf here p.text = p.lead.start here := by
  have start := startOf_ofPieces p.fits_pieces (fun _ => not_slash_mem_of_mem_pieces) here
  rwa [ofPieces_pieces] at start

theorem filter_stepsOf (p : Path) :
    (stepsOf p.text).filter (· != ".") = p.components.map String.ofList := by
  rw [stepsOf_eq, List.filter_append, filter_namesOf]
  split
  · exact List.append_nil _
  · exact List.append_nil _

end Path

namespace Workspace

variable {w w' : Workspace} {p q : Path} {loc loc' : Location} {node node' : Node}

theorem location_eq_of_sameAs (same : p.sameAs q = true) (leads : w.lookup p = .ok (loc, node))
    (leads' : w.lookup q = .ok (loc', node')) : loc = loc' := by
  obtain ⟨lead, components⟩ : p.lead = q.lead ∧ p.components = q.components := by
    simpa [Path.sameAs] using same
  obtain ⟨_, arrives, _⟩ := lookup_eq_ok_iff.mp leads
  obtain ⟨_, arrives', _⟩ := lookup_eq_ok_iff.mp leads'
  rw [Path.startOf_text, lead, ← Path.startOf_text] at arrives
  apply FileTree.location_eq_of_follow arrives arrives'
  rw [Path.filter_stepsOf, Path.filter_stepsOf, components]

/-! ### Workspaces that grow -/

/-- All that `w` holds is in `w'` too. -/
structure Grows (w w' : Workspace) : Prop where
  here_eq : w'.here = w.here
  tree : w.tree.Grows w'.tree

namespace Grows

theorem trans {w'' : Workspace} (h : w.Grows w') (h' : w'.Grows w'') : w.Grows w'' :=
  ⟨h'.here_eq.trans h.here_eq, h.tree.trans h'.tree⟩

theorem lookup_eq_ok (grows : w.Grows w') (leads : w.lookup p = .ok (loc, node)) :
    w'.lookup p = .ok (loc, node) := by
  obtain ⟨sound, arrives, found⟩ := lookup_eq_ok_iff.mp leads
  rw [lookup_eq_ok_iff, grows.here_eq]
  exact ⟨sound, grows.tree.follow_eq_ok arrives, grows.tree.node?_eq_some found⟩

theorem isDirectory_eq_true (grows : w.Grows w') (h : w.isDirectory p = true) :
    w'.isDirectory p = true := by
  unfold isDirectory at h
  split at h
  next loc leads => rw [isDirectory, grows.lookup_eq_ok leads]
  · cases h

theorem readText_eq_ok (grows : w.Grows w') {text : String} (read : w.readText p = .ok text) :
    w'.readText p = .ok text := by
  obtain ⟨content, bytes, decodes⟩ := Outcome.except_bind_eq_ok_iff.mp read
  obtain ⟨⟨loc, node⟩, leads, file⟩ := Outcome.except_bind_eq_ok_iff.mp bytes
  rw [readText, readBytes, grows.lookup_eq_ok leads]
  exact Outcome.except_bind_eq_ok_iff.mpr ⟨content, file, decodes⟩

theorem absolute_eq (grows : w.Grows w') (p : Path) : w'.absolute p = w.absolute p := by
  rw [absolute, absolute, herePath, herePath, grows.here_eq]

end Grows

theorem grows_place (room : w.tree.HasRoom loc) (vacant : w.tree.nodes.get? loc = none)
    (node : Node) : w.Grows (w.place loc node) := by
  refine ⟨rfl, fun other found taken => ?_⟩
  have apart : other ≠ loc := by
    rintro rfl
    rw [vacant] at taken
    cases taken
  exact (FileTree.get?_place room _ other).trans ((if_neg apart).trans taken)

/-- `w'` is `w` with a file added, and the directories on the way to it. -/
structure AddsFile (w : Workspace) (loc : Location) (content : ByteArray) (w' : Workspace) : Prop
    where
  grows : w.Grows w'
  vacant : w.tree.nodes.get? loc = none
  added : w'.tree.nodes.get? loc = some (.file content)
  elsewhere : ∀ other, ¬ other <+: loc → w'.tree.nodes.get? other = w.tree.nodes.get? other

theorem addsFile_place {content : ByteArray} (room : w.tree.HasRoom loc)
    (vacant : w.tree.nodes.get? loc = none) :
    w.AddsFile loc content (w.place loc (.file content)) where
  grows := grows_place room vacant _
  vacant := vacant
  added := (FileTree.get?_place room _ loc).trans (if_pos rfl)
  elsewhere := by
    intro other above
    have apart : other ≠ loc := by
      rintro rfl
      exact above List.prefix_rfl
    exact (FileTree.get?_place room _ other).trans (if_neg apart)

/-- The directories on the way to a file may be made before it. -/
theorem AddsFile.of_place_directory {content : ByteArray} {above : Location}
    (room : w.tree.HasRoom above) (new : w.tree.nodes.get? above = none) (onWay : above <+: loc)
    (adds : (w.place above .directory).AddsFile loc content w') : w.AddsFile loc content w' where
  grows := (grows_place room new _).trans adds.grows
  vacant := by
    have vacant := (FileTree.get?_place room .directory loc).symm.trans adds.vacant
    split at vacant
    · cases vacant
    · exact vacant
  added := adds.added
  elsewhere := by
    intro other beside
    have apart : other ≠ above := by
      rintro rfl
      exact beside onWay
    exact (adds.elsewhere other beside).trans
      ((FileTree.get?_place room .directory other).trans (if_neg apart))

theorem AddsFile.cases {content : ByteArray} (adds : w.AddsFile loc content w') {other : Location}
    (found : w'.tree.nodes.get? other = some node) :
    w.tree.nodes.get? other = some node ∨ (other = loc ∧ node = .file content) ∨
      node = .directory := by
  -- Whatever is new lies on the way to the file, and what has something beneath it is a directory.
  by_cases above : other <+: loc
  · obtain ⟨below, rfl⟩ := above
    rcases eq_or_ne below [] with rfl | more
    · have added := adds.added
      rw [List.append_nil, found] at added
      exact .inr (.inl ⟨(List.append_nil other).symm, Option.some.inj added⟩)
    · rcases FileTree.isDirectoryIn_above adds.added more with root | directory
      · exact absurd root (w'.tree.rooted other node found).1
      · rw [found] at directory
        exact .inr (.inr (Option.some.inj directory))
  · rw [adds.elsewhere other above] at found
    exact .inl found

end Workspace

end SpecPrompt
