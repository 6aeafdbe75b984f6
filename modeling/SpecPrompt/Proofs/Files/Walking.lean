import Mathlib.Data.List.Induction
import SpecPrompt.Files.Workspace
import SpecPrompt.Proofs.SortedMap
import SpecPrompt.Proofs.Text.Lines

/-!
# Walking to what is listed

Everything that a listing finds beneath a directory is also reached by its path, the directory's
path followed by the names, unless that path is too long.

## Main result

`lookup_join`: the path of something beneath a directory leads to it.
-/

namespace SpecPrompt

/-! ### Names -/

namespace IsName

variable {name : String}

theorem toList_ne_nil (h : IsName name) : name.toList ≠ [] := by
  simpa using h.1.1

theorem exists_toList_eq_cons (h : IsName name) : ∃ c cs, name.toList = c :: cs ∧ c ≠ '/' := by
  obtain ⟨c, cs, same⟩ := List.exists_cons_of_ne_nil h.toList_ne_nil
  exact ⟨c, cs, same, fun slash => h.2.1.1 (by simp [same, slash])⟩

theorem getLast_ne_slash (h : IsName name) : name.toList.getLast? ≠ some '/' :=
  fun last => h.2.1.1 (List.mem_of_getLast? last)

theorem not_longer (h : IsName name) : ¬ longestName < name.utf8ByteSize := by
  have short := h.2.2
  omega

end IsName

/-! ### The names in a text -/

/-- The names between the slashes of a text. -/
def namesOf (cs : List Char) : List String :=
  ((cs.splitOn '/').filter fun piece => !piece.isEmpty).map String.ofList

theorem namesOf_append (cs cs' : List Char) :
    namesOf (cs ++ '/' :: cs') = namesOf cs ++ namesOf cs' := by
  rw [namesOf, List.splitOn_append_cons_self, List.filter_append, List.map_append]
  rfl

theorem namesOf_of_not_mem {cs : List Char} (nonempty : cs ≠ []) (h : '/' ∉ cs) :
    namesOf cs = [String.ofList cs] := by
  rw [namesOf, List.splitOn_eq_singleton h]
  simp [nonempty]

theorem namesOf_name {name : String} (h : IsName name) : namesOf name.toList = [name] := by
  rw [namesOf_of_not_mem h.toList_ne_nil h.2.1.1, String.ofList_toList]

theorem namesOf_intercalate {names : List String} (h : ∀ name ∈ names, IsName name) :
    namesOf ("/".intercalate names).toList = names := by
  induction names with
  | nil => rfl
  | cons name names ih =>
    have single := namesOf_name (h name (by simp))
    cases names with
    | nil => simpa using single
    | cons name' names =>
      have rest := ih fun other listed => h other (by simp [listed])
      have slash : "/".toList = ['/'] := rfl
      rw [String.intercalate_cons_cons, String.toList_append, String.toList_append,
        List.append_assoc, slash, List.singleton_append, namesOf_append, single, rest]
      rfl

/-- A path walks through its names; a final slash asks for a directory. -/
theorem stepsOf_eq (text : String) :
    stepsOf text =
      namesOf text.toList ++ if text.toList.getLast? = some '/' then ["."] else [] := by
  unfold stepsOf namesOf
  dsimp only
  split <;> simp

/-! ### Walking on -/

/-- What becomes of a stretch when more names follow. -/
def Stretch.on (t : FileTree) (rest : List String) : Stretch → Stretch
  | .ended (.occupied loc) => t.walk loc rest
  | .ended (.vacant parent name) =>
    if rest.isEmpty then .ended (.vacant parent name) else .failed .missing
  | .failed fault => .failed fault
  | .atLink parent target left => .atLink parent target (left ++ rest)

namespace FileTree

variable (t : FileTree)

theorem walk_append (loc : Location) (names rest : List String) :
    t.walk loc (names ++ rest) = (t.walk loc names).on t rest := by
  induction names generalizing loc with
  | nil => simp only [List.nil_append, walk, Stretch.on]
  | cons name names ih =>
    rw [List.cons_append, walk, walk]
    split
    · rfl
    split
    · exact ih loc
    split
    · exact ih loc.dropLast
    split
    · rfl
    split
    · rfl
    · exact ih (loc ++ [name])
    · cases names <;> rfl

variable {t} {loc loc' : Location} {names : List String} {links : Nat}

/-- What a text walks through after its names: nothing, or a final `.`. -/
def IsEnding (ending : List String) : Prop :=
  ending = [] ∨ ending = ["."]

theorem walk_ending {ending : List String} (h : IsEnding ending) (t : FileTree)
    (loc : Location) :
    t.walk loc ending = .ended (.occupied loc) ∨ t.walk loc ending = .failed .notDirectory := by
  rcases h with rfl | rfl
  · exact .inl (by rw [walk])
  · rw [walk]
    split
    · exact .inr rfl
    · exact .inl (by rw [if_pos rfl, walk])

private theorem follow_append_of_ended {ending : List String} (h : IsEnding ending)
    {place : Place} (walked : t.walk loc names = .ended place)
    (arrives : t.follow links loc (names ++ ending) = .ok (.occupied loc')) (rest : List String) :
    t.follow links loc (names ++ rest) = t.follow links loc' rest := by
  rw [follow, walk_append, walked] at arrives
  cases place with
  -- Nothing is there yet, and no ending makes it a place that is taken.
  | vacant parent name => rcases h with rfl | rfl <;> simp [Stretch.on] at arrives
  | occupied reached =>
    rw [Stretch.on] at arrives
    rcases walk_ending h t reached with there | stuck
    · rw [there] at arrives
      obtain rfl := Place.occupied.inj (Except.ok.inj arrives)
      rw [follow, walk_append, walked, Stretch.on]
      exact (follow.eq_1 t links reached rest).symm
    · rw [stuck] at arrives
      cases arrives

/-- Where names and an ending lead, a walk through more names goes on. Each link on the way uses up
one of those that may be followed. -/
private theorem follow_append {ending : List String} (h : IsEnding ending)
    (arrives : t.follow links loc (names ++ ending) = .ok (.occupied loc')) :
    ∃ links', ∀ rest, t.follow links loc (names ++ rest) = t.follow links' loc' rest := by
  induction links generalizing loc names with
  | zero =>
    cases walked : t.walk loc names with
    | ended place => exact ⟨0, follow_append_of_ended h walked arrives⟩
    | failed fault => simp [follow, walk_append, walked, Stretch.on] at arrives
    | atLink parent target left => simp [follow, walk_append, walked, Stretch.on] at arrives
  -- A link starts the walk again, from its target's names, with one link less to follow.
  | succ links ih =>
    cases walked : t.walk loc names with
    | ended place => exact ⟨links + 1, follow_append_of_ended h walked arrives⟩
    | failed fault => simp [follow, walk_append, walked, Stretch.on] at arrives
    | atLink parent target left =>
      -- The target's names stand before those left to walk through.
      rw [follow, walk_append, walked, Stretch.on] at arrives
      simp only [← List.append_assoc] at arrives
      obtain ⟨links', onward⟩ := ih arrives
      refine ⟨links', fun rest => ?_⟩
      rw [follow, walk_append, walked, Stretch.on]
      simp only [← List.append_assoc]
      exact onward rest

/-! ### Beneath a directory -/

theorem isDirectoryIn_of_node? (h : t.node? loc = some .directory) : IsDirectoryIn t.nodes loc := by
  unfold node? at h
  split at h
  next root => exact .inl root
  · exact .inr h

theorem node?_of_isDirectoryIn (inside : IsDirectoryIn t.nodes loc) :
    t.node? loc = some .directory := by
  rw [node?]
  split
  · rfl
  next below => exact inside.resolve_left below

/-- The locations above one that is taken are directories. -/
theorem isDirectoryIn_above {above below : Location} {node : Node}
    (found : t.nodes.get? (above ++ below) = some node) (more : below ≠ []) :
    IsDirectoryIn t.nodes above := by
  induction below using List.reverseRecOn generalizing node with
  | nil => exact absurd rfl more
  | append_singleton below name ih =>
    have parent := (t.rooted _ node found).2
    rw [← List.append_assoc, List.dropLast_concat] at parent
    rcases eq_or_ne below [] with rfl | between
    · rwa [List.append_nil] at parent
    · rcases parent with empty | directory
      · exact absurd (List.append_eq_nil_iff.mp empty).2 between
      · exact ih directory between

/-- From a directory, names lead to what is beneath it, if that is no link. -/
theorem walk_beneath {node : Node} (inside : IsDirectoryIn t.nodes loc)
    (found : t.nodes.get? (loc ++ names) = some node) (noLink : ∀ target, node ≠ .link target) :
    t.walk loc names = .ended (.occupied (loc ++ names)) := by
  induction names generalizing loc with
  | nil => rw [walk, List.append_nil]
  | cons name names ih =>
    have valid : IsName name := t.named _ node found name (by simp)
    obtain ⟨_, notHere, notUp⟩ := valid.1
    have directory : t.isDirectory loc = true := by simpa [isDirectory] using inside
    rw [walk, directory, if_neg (by simp), if_neg notHere, if_neg notUp, if_neg valid.not_longer]
    rw [List.append_cons loc name names] at found ⊢
    rcases eq_or_ne names [] with rfl | more
    -- The last name leads to the node itself.
    · rw [List.append_nil] at found ⊢
      rw [found]
      cases node with
      | link target => exact absurd rfl (noLink target)
      | file content => rw [walk]
      | directory => rw [walk]
    -- Every other name leads to a directory, because something lies beneath it.
    · have below := isDirectoryIn_above found more
      have step : t.nodes.get? (loc ++ [name]) = some .directory :=
        below.resolve_left (by simp)
      rw [step]
      exact ih below found

theorem mem_beneath {found : List String × Node} (h : found ∈ t.beneath loc) :
    found.1 ≠ [] ∧ t.nodes.get? (loc ++ found.1) = some found.2 := by
  rw [beneath, List.mem_filterMap] at h
  obtain ⟨⟨other, node⟩, listed, same⟩ := h
  dsimp only at same
  split at same
  next name names split =>
    cases same
    obtain rfl : loc ++ name :: names = other :=
      List.append_eq_of_isPrefixOf?_eq_some split
    exact ⟨by simp, SortedMap.mem_toList_iff.mp listed⟩
  · cases same

theorem mem_beneath_of_get? {node : Node} (more : names ≠ [])
    (found : t.nodes.get? (loc ++ names) = some node) : (names, node) ∈ t.beneath loc := by
  obtain ⟨name, rest, rfl⟩ := List.exists_cons_of_ne_nil more
  have cut : loc.isPrefixOf? (loc ++ name :: rest) = some (name :: rest) :=
    List.isPrefixOf?_eq_some_iff_append_eq.mpr rfl
  rw [beneath, List.mem_filterMap]
  refine ⟨(loc ++ name :: rest, node), SortedMap.mem_toList_iff.mpr found, ?_⟩
  simp only [cut]

end FileTree

/-! ### Paths of what is listed -/

private theorem getLast_intercalate {names : List String} (more : names ≠ [])
    (h : ∀ name ∈ names, IsName name) :
    ("/".intercalate names).toList ≠ [] ∧
      ("/".intercalate names).toList.getLast? ≠ some '/' := by
  induction names with
  | nil => exact absurd rfl more
  | cons name names ih =>
    have valid := h name (by simp)
    cases names with
    | nil =>
      rw [String.intercalate_singleton]
      exact ⟨valid.toList_ne_nil, valid.getLast_ne_slash⟩
    | cons name' names =>
      obtain ⟨filled, last⟩ := ih (by simp) fun other listed => h other (by simp [listed])
      rw [String.intercalate_cons_cons, String.toList_append]
      refine ⟨by simp, ?_⟩
      rwa [List.getLast?_append_of_ne_nil _ filled]

theorem isAbsolute_of_head? {p : Path} (h : p.text.toList.head? ≠ some '/') :
    p.isAbsolute = false := by
  unfold Path.isAbsolute Path.lead
  split
  next slashed => exact absurd (by rw [slashed]; rfl) h
  · rfl
  · rfl
  · rfl

theorem isAbsolute_intercalate {names : List String} (h : ∀ name ∈ names, IsName name) :
    (Path.mk ("/".intercalate names)).isAbsolute = false := by
  have start : ("/".intercalate names).toList.head? ≠ some '/' := by
    cases names with
    | nil => decide
    | cons name names =>
      obtain ⟨c, cs, same, apart⟩ := (h name (by simp)).exists_toList_eq_cons
      cases names with
      | nil => simpa [same] using apart
      | cons name' names => simpa [String.intercalate_cons_cons, same] using apart
  exact isAbsolute_of_head? start

private theorem nul_not_mem_intercalate {names : List String} (h : ∀ name ∈ names, IsName name) :
    Char.ofNat 0 ∉ ("/".intercalate names).toList := by
  intro inside
  rw [String.toList_intercalate] at inside
  rcases Chars.mem_of_mem_intercalate inside with between | ⟨cs, listed, inside⟩
  · exact absurd between (by decide)
  · obtain ⟨name, kept, rfl⟩ := List.mem_map.mp listed
    exact (h name kept).2.1.2 inside

/-- A path joined from a directory's path and names is the directory's path, up to a final slash, a
slash, and the names. -/
theorem toList_join {root : Path} {names : List String} (filled : root.text ≠ "")
    (h : ∀ name ∈ names, IsName name) :
    ∃ before, (root.join ⟨"/".intercalate names⟩).text.toList =
        before ++ '/' :: ("/".intercalate names).toList ∧
      (root.text.toList = before ∨ root.text.toList = before ++ ['/']) := by
  unfold Path.join
  rw [isAbsolute_intercalate h, if_neg (by simpa using filled)]
  split
  next slash =>
    obtain ⟨before, same⟩ := List.getLast?_eq_some_iff.mp slash
    exact ⟨before, by simp [same], .inr same⟩
  · exact ⟨root.text.toList, by simp, .inl rfl⟩

/-- Fewer names make a shorter path. -/
theorem utf8ByteSize_join_le {root : Path} {names names' : List String} (filled : root.text ≠ "")
    (h : ∀ name ∈ names', IsName name) (above : names <+: names') :
    (root.join ⟨"/".intercalate names⟩).text.utf8ByteSize ≤
      (root.join ⟨"/".intercalate names'⟩).text.utf8ByteSize := by
  have fewer : ("/".intercalate names).utf8ByteSize ≤ ("/".intercalate names').utf8ByteSize := by
    obtain ⟨below, rfl⟩ := above
    rcases eq_or_ne names [] with rfl | some
    · exact Nat.zero_le _
    rcases eq_or_ne below [] with rfl | more
    · rw [List.append_nil]
    · rw [String.intercalate_append_of_ne_nil some more]
      simp only [String.utf8ByteSize_append]
      omega
  have named : ∀ name ∈ names, IsName name := fun name listed => h name (above.subset listed)
  have some : (false || root.text.isEmpty) = false := by simpa using filled
  simp only [Path.join, isAbsolute_intercalate h, isAbsolute_intercalate named, some,
    Bool.false_eq_true, if_false]
  split <;> simpa [String.utf8ByteSize_append] using fewer

namespace Workspace

variable {w : Workspace} {root : Path} {loc : Location} {names : List String}

theorem startOf_join (filled : root.text ≠ "") (h : ∀ name ∈ names, IsName name)
    (here : Location) :
    startOf here (root.join ⟨"/".intercalate names⟩).text = startOf here root.text := by
  obtain ⟨before, same, unslashed | slashed⟩ := toList_join filled h
  · have start : before ≠ [] := by simpa [← unslashed] using filled
    rw [startOf, startOf, same, unslashed, List.head?_append_of_ne_nil _ start]
  · rw [startOf, startOf, same, slashed]
    cases before <;> rfl

theorem stepsOf_join (filled : root.text ≠ "") (more : names ≠ [])
    (h : ∀ name ∈ names, IsName name) :
    stepsOf (root.join ⟨"/".intercalate names⟩).text = namesOf root.text.toList ++ names := by
  obtain ⟨before, same, root_eq⟩ := toList_join filled h
  obtain ⟨rest, last⟩ := getLast_intercalate more h
  have noEnding : (before ++ '/' :: ("/".intercalate names).toList).getLast? ≠ some '/' := by
    rwa [List.append_cons, List.getLast?_append_of_ne_nil _ rest]
  have before_eq : namesOf before = namesOf root.text.toList := by
    rcases root_eq with unslashed | slashed
    · rw [unslashed]
    · rw [slashed, namesOf_append]
      exact (List.append_nil _).symm
  rw [stepsOf_eq, same, if_neg noEnding, List.append_nil, namesOf_append, namesOf_intercalate h,
    before_eq]

theorem checkText_eq_ok_iff {p : Path} :
    checkText p = .ok () ↔
      p.text ≠ "" ∧ Char.ofNat 0 ∉ p.text.toList ∧ p.text.utf8ByteSize < pathLimit := by
  unfold checkText
  split
  · simp_all
  split
  · simp_all
  split
  · simp_all
  · simp_all

theorem lookup_eq_ok_iff {p : Path} {node : Node} :
    w.lookup p = .ok (loc, node) ↔ checkText p = .ok () ∧
      w.tree.follow linkLimit (startOf w.here p.text) (stepsOf p.text) = .ok (.occupied loc) ∧
      w.tree.node? loc = some node := by
  rw [lookup, locate]
  cases checkText p with
  | error fault => simp [bind, Except.bind]
  | ok _ =>
    cases w.tree.follow linkLimit (startOf w.here p.text) (stepsOf p.text) with
    | error fault => simp [bind, Except.bind]
    | ok place =>
      cases place with
      | vacant parent name => simp [bind, Except.bind]
      | occupied reached =>
        simp only [bind, Except.bind, true_and, Except.ok.injEq, Place.occupied.injEq]
        cases found : w.tree.node? reached with
        | none =>
          refine ⟨nofun, ?_⟩
          rintro ⟨rfl, taken⟩
          rw [found] at taken
          cases taken
        | some node' =>
          constructor
          · intro same
            cases same
            exact ⟨rfl, found⟩
          · rintro ⟨rfl, taken⟩
            rw [found] at taken
            cases taken
            rfl

theorem isFile_iff {p : Path} :
    w.isFile p = true ↔ ∃ loc content, w.lookup p = .ok (loc, .file content) := by
  unfold isFile
  split
  next loc content leads => exact iff_of_true rfl ⟨loc, content, leads⟩
  next other =>
    apply iff_of_false nofun
    rintro ⟨loc, content, leads⟩
    exact other loc content leads

theorem lookup_of_long {p : Path} (filled : p.text ≠ "") (noNul : Char.ofNat 0 ∉ p.text.toList)
    (long : pathLimit ≤ p.text.utf8ByteSize) : w.lookup p = .error .nameTooLong := by
  have refused : checkText p = .error .nameTooLong := by
    rw [checkText, if_neg (by simpa using filled), if_neg (by simpa using noNul), if_pos long]
  rw [lookup, locate, refused]
  rfl

theorem nul_not_mem_join (filled : root.text ≠ "") (h : ∀ name ∈ names, IsName name)
    (noNul : Char.ofNat 0 ∉ root.text.toList) :
    Char.ofNat 0 ∉ (root.join ⟨"/".intercalate names⟩).text.toList := by
  obtain ⟨before, same, root_eq⟩ := toList_join filled h
  have early : Char.ofNat 0 ∉ before := by
    rcases root_eq with unslashed | slashed
    · rwa [← unslashed]
    · intro inside
      exact noNul (by simp [slashed, inside])
  rw [same, List.mem_append, List.mem_cons]
  rintro (inside | slash | inside)
  · exact early inside
  · exact absurd slash (by decide)
  · exact nul_not_mem_intercalate h inside

/-- What is beneath a directory is reached by its path, unless it is a link or the path is too
long. -/
theorem lookup_join {node : Node} (found : (names, node) ∈ w.tree.beneath loc)
    (noLink : ∀ target, node ≠ .link target) (directory : w.lookup root = .ok (loc, .directory)) :
    w.lookup (root.join ⟨"/".intercalate names⟩) =
      if pathLimit ≤ (root.join ⟨"/".intercalate names⟩).text.utf8ByteSize then .error .nameTooLong
      else .ok (loc ++ names, node) := by
  obtain ⟨more, taken⟩ := FileTree.mem_beneath found
  have valid : ∀ name ∈ names, IsName name := fun name listed =>
    w.tree.named _ _ taken name (List.mem_append_right _ listed)
  obtain ⟨sound, arrives, there⟩ := lookup_eq_ok_iff.mp directory
  obtain ⟨filled, noNul, _⟩ := checkText_eq_ok_iff.mp sound
  have noNul' := nul_not_mem_join filled valid noNul
  have filled' : (root.join ⟨"/".intercalate names⟩).text ≠ "" := by
    obtain ⟨before, same, _⟩ := toList_join filled valid
    intro empty
    simp [empty] at same
  split
  next long => exact lookup_of_long filled' noNul' long
  next short =>
    -- From the root, where the walk through the root's path ends, it goes on through the names.
    have walked := FileTree.walk_beneath (FileTree.isDirectoryIn_of_node? there) taken noLink
    have ending : FileTree.IsEnding
        (if root.text.toList.getLast? = some '/' then ["."] else []) := by
      split
      · exact .inr rfl
      · exact .inl rfl
    rw [stepsOf_eq] at arrives
    obtain ⟨links, onward⟩ := FileTree.follow_append ending arrives
    rw [lookup_eq_ok_iff, checkText_eq_ok_iff, startOf_join filled valid,
      stepsOf_join filled more valid]
    refine ⟨⟨filled', noNul', by omega⟩, ?_, ?_⟩
    · rw [onward names, FileTree.follow, walked]
    · rw [FileTree.node?, if_neg (by simp [more])]
      exact taken

end Workspace

end SpecPrompt
