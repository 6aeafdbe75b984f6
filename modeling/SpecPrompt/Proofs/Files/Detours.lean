import SpecPrompt.Proofs.Files.Walking

/-!
# Detours

A path may leave a directory and enter it again, over and over. It leads to that directory as long
as it is not too long itself, and stays as it is when it is made absolute.
-/

namespace SpecPrompt

/-- The path of a directory in the root that is left and entered again `n` times. -/
def detour (name : String) : Nat → String
  | 0 => "/" ++ name
  | n + 1 => detour name n ++ "/../" ++ name

variable {name : String} {w : Workspace}

theorem utf8ByteSize_detour (name : String) (n : Nat) :
    (detour name n).utf8ByteSize = 1 + name.utf8ByteSize + n * (4 + name.utf8ByteSize) := by
  have slash : "/".utf8ByteSize = 1 := rfl
  have back : "/../".utf8ByteSize = 4 := rfl
  induction n with
  | zero => rw [detour, String.utf8ByteSize_append, slash, Nat.zero_mul, Nat.add_zero]
  | succ n ih =>
    rw [detour, String.utf8ByteSize_append, String.utf8ByteSize_append, ih, back, Nat.succ_mul]
    omega

theorem toList_detour_succ (name : String) (n : Nat) :
    (detour name (n + 1)).toList =
      (detour name n).toList ++ '/' :: (['.', '.'] ++ '/' :: name.toList) := by
  simp [detour]

theorem namesOf_detour (valid : IsName name) (n : Nat) :
    namesOf (detour name n).toList = name :: (List.replicate n ["..", name]).flatten := by
  have single := namesOf_name valid
  induction n with
  | zero =>
    rw [detour, String.toList_append]
    change namesOf ([] ++ '/' :: name.toList) = _
    rw [namesOf_append, single]
    rfl
  | succ n ih =>
    have up : namesOf ['.', '.'] = [".."] := by decide
    rw [toList_detour_succ, namesOf_append, namesOf_append, ih, single, up,
      List.replicate_succ', List.flatten_append]
    rfl

/-! ### Where detours lead -/

private theorem walk_name {t : FileTree} (valid : IsName name)
    (directory : t.nodes.get? [name] = some .directory) (rest : List String) :
    t.walk [] (name :: rest) = t.walk [name] rest := by
  obtain ⟨_, notHere, notUp⟩ := valid.1
  have root : t.isDirectory [] = true := decide_eq_true (.inl rfl)
  rw [FileTree.walk, root, if_neg (by simp), if_neg notHere, if_neg notUp,
    if_neg valid.not_longer, List.nil_append, directory]

/-- Each step back and forth ends where it began. -/
private theorem walk_detour {t : FileTree} (valid : IsName name)
    (directory : t.nodes.get? [name] = some .directory) (n : Nat) :
    t.walk [name] (List.replicate n ["..", name]).flatten = .ended (.occupied [name]) := by
  have inside : t.isDirectory [name] = true := decide_eq_true (.inr directory)
  induction n with
  | zero =>
    rw [List.replicate_zero, List.flatten_nil, FileTree.walk]
  | succ n ih =>
    rw [List.replicate_succ, List.flatten_cons, List.cons_append, FileTree.walk, inside,
      if_neg (by simp), if_neg (by decide), if_pos rfl]
    change t.walk [] (name :: _) = _
    rw [walk_name valid directory]
    exact ih

/-- A detour is a slash and components between slashes. -/
theorem exists_toList_detour (valid : IsName name) (n : Nat) :
    ∃ body, (detour name n).toList = '/' :: body ∧ body.head? = name.toList.head? ∧
      ∀ piece ∈ body.splitOn '/', Path.isComponent piece = true := by
  obtain ⟨nonempty, notHere, _⟩ := valid.1
  have apart : name.toList ≠ ['.'] := fun same =>
    notHere (by rw [← String.ofList_toList (s := name), same])
  have component : Path.isComponent name.toList = true := by
    simp [Path.isComponent, nonempty, apart]
  have single : name.toList.splitOn '/' = [name.toList] :=
    List.splitOn_eq_singleton valid.2.1.1
  induction n with
  | zero =>
    refine ⟨name.toList, by simp [detour], rfl, ?_⟩
    rw [single]
    simpa using component
  | succ n ih =>
    obtain ⟨body, rooted, start, components⟩ := ih
    have body_ne : body ≠ [] := by
      rintro rfl
      exact valid.toList_ne_nil (List.head?_eq_none_iff.mp start.symm)
    refine ⟨body ++ '/' :: (['.', '.'] ++ '/' :: name.toList), ?_, ?_, ?_⟩
    · rw [toList_detour_succ, rooted, List.cons_append]
    · rw [List.head?_append_of_ne_nil _ body_ne, start]
    · have up : ['.', '.'].splitOn '/' = [['.', '.']] := by decide
      rw [List.splitOn_append_cons_self, List.splitOn_append_cons_self, single, up]
      intro piece listed
      rcases List.mem_append.mp listed with early | late
      · exact components piece early
      · rcases List.mem_append.mp late with back | last
        · rw [List.mem_singleton.mp back]
          decide
        · rw [List.mem_singleton.mp last]
          exact component

theorem getLast_detour (valid : IsName name) (n : Nat) :
    (detour name n).toList.getLast? ≠ some '/' := by
  have last : (detour name n).toList.getLast? = name.toList.getLast? := by
    cases n <;> rw [detour, String.toList_append,
      List.getLast?_append_of_ne_nil _ valid.toList_ne_nil]
  rw [last]
  exact valid.getLast_ne_slash

theorem nul_not_mem_detour (valid : IsName name) (n : Nat) :
    Char.ofNat 0 ∉ (detour name n).toList := by
  have noNul := valid.2.1.2
  have slash : Char.ofNat 0 ≠ '/' := by decide
  have dot : Char.ofNat 0 ≠ '.' := by decide
  induction n with
  | zero =>
    rw [detour, String.toList_append]
    change Char.ofNat 0 ∉ '/' :: name.toList
    rw [List.mem_cons, not_or]
    exact ⟨slash, noNul⟩
  | succ n ih =>
    rw [toList_detour_succ]
    simp only [List.mem_append, List.mem_cons, List.not_mem_nil, or_false, not_or]
    exact ⟨ih, slash, ⟨dot, dot⟩, slash, noNul⟩

/-- A detour leads to its directory. -/
theorem lookup_detour (valid : IsName name)
    (directory : w.tree.nodes.get? [name] = some .directory) {n : Nat}
    (short : (detour name n).utf8ByteSize < pathLimit) :
    w.lookup ⟨detour name n⟩ = .ok ([name], .directory) := by
  obtain ⟨body, rooted, _⟩ := exists_toList_detour valid n
  have start : startOf w.here (detour name n) = [] := by
    rw [startOf, rooted]
    rfl
  have steps : stepsOf (detour name n) = name :: (List.replicate n ["..", name]).flatten := by
    rw [stepsOf_eq, namesOf_detour valid, if_neg (getLast_detour valid n), List.append_nil]
  rw [Workspace.lookup_eq_ok_iff, Workspace.checkText_eq_ok_iff]
  refine ⟨⟨?_, nul_not_mem_detour valid n, short⟩, ?_, ?_⟩
  · intro empty
    have : (detour name n).toList = [] := by simpa using empty
    rw [rooted] at this
    cases this
  · change w.tree.follow linkLimit (startOf w.here (detour name n)) (stepsOf (detour name n)) = _
    rw [start, steps, FileTree.follow, walk_name valid directory, walk_detour valid directory]
  · rw [FileTree.node?, if_neg (by simp)]
    exact directory

private theorem lead_detour (valid : IsName name) (n : Nat) :
    (Path.mk (detour name n)).lead = .root := by
  obtain ⟨body, rooted, _⟩ := exists_toList_detour valid n
  rw [Path.lead, rooted]
  rfl

private theorem isEmpty_detour (valid : IsName name) (n : Nat) :
    (detour name n).isEmpty = false := by
  obtain ⟨body, rooted, _⟩ := exists_toList_detour valid n
  rw [← Bool.not_eq_true, String.isEmpty_iff]
  intro empty
  simp [empty] at rooted

/-- A detour's components, behind the root again, are the detour. -/
private theorem join_components_detour (valid : IsName name) (n : Nat) :
    ∃ c cs, (detour name n).toList = '/' :: c :: cs ∧ c ≠ '/' ∧
      Path.ofPieces .none (Path.mk (detour name n)).components = ⟨String.ofList (c :: cs)⟩ ∧
      (Path.mk "/").join ⟨String.ofList (c :: cs)⟩ = ⟨detour name n⟩ := by
  obtain ⟨body, rooted, start, components⟩ := exists_toList_detour valid n
  obtain ⟨c, cs, named, apart⟩ := valid.exists_toList_eq_cons
  obtain ⟨rest, rfl⟩ : ∃ rest, body = c :: rest := by
    rw [named] at start
    exact List.head?_eq_some_iff.mp start
  refine ⟨c, rest, rooted, apart, ?_, ?_⟩
  · have pieces : (Path.mk (detour name n)).components = (c :: rest).splitOn '/' := by
      rw [Path.components, Path.pieces, lead_detour valid]
      change (((detour name n).toList.drop 1).splitOn '/').filter _ = _
      rw [rooted]
      exact List.filter_eq_self.mpr components
    rw [Path.ofPieces, pieces, List.intercalate_splitOn]
    rfl
  · have relative : (Path.mk (String.ofList (c :: rest))).isAbsolute = false :=
      isAbsolute_of_head? (by simpa using apart)
    have slash : "/".toList.getLast? = some '/' := by decide
    rw [Path.join, relative, if_neg (by simp), if_pos slash]
    congr 1
    rw [← String.toList_inj, rooted]
    simp

/-- A detour is absolute as it is. -/
theorem absolute_detour (w : Workspace) (valid : IsName name) (n : Nat) :
    w.absolute ⟨detour name n⟩ = .ok ⟨detour name n⟩ := by
  obtain ⟨c, cs, rooted, apart, names, whole⟩ := join_components_detour valid n
  have filled : (String.ofList (c :: cs)).isEmpty = false := by simp
  have unslashed := getLast_detour valid n
  rw [rooted] at unslashed
  have absolute : (Path.mk (detour name n)).absolute? w.herePath = some ⟨detour name n⟩ := by
    unfold Path.absolute?
    simp only [isEmpty_detour valid, names, filled, rooted, unslashed, Bool.false_eq_true, if_false]
    -- Two slashes at the start would be kept, but the second character is none.
    split
    next slashes =>
      exact absurd (List.cons.inj (List.cons.inj slashes).2).1 apart
    next slashes =>
      exact absurd (List.cons.inj (List.cons.inj slashes).2).1 apart
    · rw [whole]
    next other => exact absurd rfl (other _)
  rw [Workspace.absolute, absolute]

/-! ### Paths from detours on -/

theorem join_detour (valid : IsName name) (n : Nat) {names : List String}
    (h : ∀ other ∈ names, IsName other) :
    (Path.mk (detour name n)).join ⟨"/".intercalate names⟩ =
      ⟨detour name n ++ "/" ++ "/".intercalate names⟩ := by
  unfold Path.join
  rw [isAbsolute_intercalate h, isEmpty_detour valid, if_neg (by simp),
    if_neg (getLast_detour valid n)]

/-- The last component of a path from the root that ends in it. -/
theorem getLast_components {p : Path} {before last : List Char}
    (h : p.text.toList = '/' :: (before ++ '/' :: last)) (noSlash : '/' ∉ last)
    (component : Path.isComponent last = true) : p.components.getLast? = some last := by
  have lead : p.lead = .root := by
    rw [Path.lead, h]
    rfl
  -- Only the root's slash is dropped before the text is cut.
  rw [Path.components, Path.pieces, lead]
  change (((p.text.toList.drop 1).splitOn '/').filter _).getLast? = _
  rw [h, List.drop_one, List.tail_cons, List.splitOn_append_cons_self,
    List.splitOn_eq_singleton noSlash, List.filter_append]
  simp [component]

end SpecPrompt
