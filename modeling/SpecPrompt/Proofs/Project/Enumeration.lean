import Mathlib.Data.String.Basic
import SpecPrompt.Proofs.Project.Verdict

/-!
# The order of a directory listing

The documents of a project are sorted by their paths from the root, so the order in which the entries
of the tree are listed should not matter. It does not, as long as no two documents share such a path.
The names that lead to something can be read off its path, since no name holds a slash; only a
backslash in a name, which the path shows as a slash, could make two paths the same.

A walk ends at the first directory that it cannot open. So if there are several of these, the order
decides which one the failure names.

## Main result

`compileWith_eq_of_perm`: in whatever order the tree is listed, the scan and the compilation end in
the same way, unless they end at different directories that cannot be opened.
-/

namespace SpecPrompt

open Outcome

/-! ### Paths from the root -/

namespace Text

theorem replaceChar_of_not_mem {old new : Char} {s : String} (h : old ∉ s.toList) :
    replaceChar old new s = s := by
  have kept : (s.toList.map fun c => if c = old then new else c) = s.toList := by
    refine (List.map_congr_left fun c inside => ?_).trans (List.map_id _)
    have apart : c ≠ old := fun same => h (same ▸ inside)
    exact if_neg apart
  rw [replaceChar, kept, String.ofList_toList]

end Text

namespace FileTree

/-- No name in the tree holds a backslash. -/
def NoBackslash (t : FileTree) : Prop :=
  ∀ entry ∈ t.nodes.toList, ∀ name ∈ entry.1, '\\' ∉ name.toList

instance (t : FileTree) : Decidable t.NoBackslash :=
  inferInstanceAs (Decidable (∀ entry ∈ t.nodes.toList, ∀ name ∈ entry.1, '\\' ∉ name.toList))

end FileTree

/-- Names that are told apart by the text of their path. -/
structure PlainNames (names : List String) : Prop where
  named : ∀ name ∈ names, IsName name
  noBackslash : ∀ name ∈ names, '\\' ∉ name.toList

theorem relative_of_plainNames {names : List String} (h : PlainNames names) :
    Text.replaceChar '\\' '/' ("/".intercalate names) = "/".intercalate names := by
  apply Text.replaceChar_of_not_mem
  intro inside
  rw [String.toList_intercalate] at inside
  rcases Chars.mem_of_mem_intercalate inside with between | ⟨cs, listed, inside⟩
  · exact absurd between (by decide)
  · obtain ⟨name, kept, rfl⟩ := List.mem_map.mp listed
    exact h.noBackslash name kept inside

theorem names_eq_of_relative_eq {names names' : List String} (h : PlainNames names)
    (h' : PlainNames names')
    (same : Text.replaceChar '\\' '/' ("/".intercalate names) =
      Text.replaceChar '\\' '/' ("/".intercalate names')) : names = names' := by
  rw [relative_of_plainNames h, relative_of_plainNames h'] at same
  rw [← namesOf_intercalate h.named, same, namesOf_intercalate h'.named]

/-! ### Listings -/

namespace Scanner

variable {s : Scanner} {w : Workspace} {listing listing' : List Found}

/-- The scan of a tree whose entries are listed in the given order. -/
def scanListed (s : Scanner) (w : Workspace) (listing : List Found) :
    Outcome (List DocumentFile) := do
  if !w.isDirectory s.root then .fail (.notFound s.root)
  else
    .report (.scanning s.root)
    s.documentsIn w listing

theorem plainNames_of_mem_listing (plain : w.tree.NoBackslash) {found : Found}
    (h : found ∈ w.listing s.root) : PlainNames found.names := by
  obtain ⟨loc, directory⟩ := exists_lookup_of_mem_listing h
  rcases mem_listing directory h with below | rfl
  · have taken := (FileTree.mem_beneath below).2
    refine ⟨fun name listed => ?_, fun name listed => ?_⟩
    · exact w.tree.named _ _ taken name (List.mem_append_right _ listed)
    · exact plain _ (SortedMap.mem_toList_iff.mpr taken) name (List.mem_append_right _ listed)
  -- The root itself has no name.
  · exact ⟨nofun, nofun⟩

theorem documentAt_eq_of_relative_eq (plain : w.tree.NoBackslash) {found found' : Found}
    (h : found ∈ w.listing s.root) (h' : found' ∈ w.listing s.root)
    (same : (s.documentAt found).relative = (s.documentAt found').relative) :
    s.documentAt found = s.documentAt found' := by
  have names := names_eq_of_relative_eq (plainNames_of_mem_listing plain h)
    (plainNames_of_mem_listing plain h') same
  rw [documentAt, documentAt, pathOf, pathOf, names]

theorem sorted_eq_of_perm (plain : w.tree.NoBackslash) (within : listing ⊆ w.listing s.root)
    (h : listing.Perm listing') :
    sorted ((listing.filter (s.accepts w)).map s.documentAt) =
      sorted ((listing'.filter (s.accepts w)).map s.documentAt) := by
  have perm := (h.filter (s.accepts w)).map s.documentAt
  refine List.Perm.eq_of_pairwise ?_ (pairwise_sorted _) (pairwise_sorted _)
    ((sorted_perm _).trans (perm.trans (sorted_perm _).symm))
  -- Two documents that could change places have the same path, so they are one.
  intro a b listed listed' below above
  rw [(sorted_perm _).mem_iff] at listed listed'
  rw [← perm.mem_iff] at listed'
  obtain ⟨found, kept, rfl⟩ := List.mem_map.mp listed
  obtain ⟨found', kept', rfl⟩ := List.mem_map.mp listed'
  exact documentAt_eq_of_relative_eq plain (within (List.mem_filter.mp kept).1)
    (within (List.mem_filter.mp kept').1) (String.le_antisymm below above)

theorem result_scanListed_of_root (root : w.isDirectory s.root = true) (listing : List Found) :
    (s.scanListed w listing).result = (s.documentsIn w listing).result := by
  rw [scanListed, root]
  rfl

/-- Two walks meet no directory that they cannot open, or each one meets a first such directory. -/
theorem find?_of_perm (h : listing.Perm listing') :
    (listing.find? s.outOfReach = none ∧ listing'.find? s.outOfReach = none) ∨
      ∃ found ∈ listing, ∃ found' ∈ listing, s.outOfReach found = true ∧ s.outOfReach found' = true ∧
        listing.find? s.outOfReach = some found ∧ listing'.find? s.outOfReach = some found' := by
  cases first : listing.find? s.outOfReach with
  | none =>
    refine .inl ⟨rfl, List.find?_eq_none.mpr fun found listed => ?_⟩
    exact List.find?_eq_none.mp first found (h.mem_iff.mpr listed)
  | some found =>
    have member := List.mem_of_find?_eq_some first
    have closed := List.find?_some first
    cases first' : listing'.find? s.outOfReach with
    | none => exact absurd closed (List.find?_eq_none.mp first' found (h.mem_iff.mp member))
    | some found' =>
      exact .inr ⟨found, member, found', h.mem_iff.mpr (List.mem_of_find?_eq_some first'), closed,
        List.find?_some first', rfl, rfl⟩

/-- Two scans end in the same way, or at different directories that cannot be opened. -/
theorem result_scanListed_of_perm (plain : w.tree.NoBackslash)
    (within : listing ⊆ w.listing s.root) (h : listing.Perm listing') :
    (s.scanListed w listing).result = (s.scanListed w listing').result ∨
      ∃ found ∈ listing, ∃ found' ∈ listing, found ≠ found' ∧
        s.outOfReach found = true ∧ s.outOfReach found' = true ∧
        (s.scanListed w listing).result =
          .error (walkFailure (s.pathOf found) .nameTooLong) ∧
        (s.scanListed w listing').result =
          .error (walkFailure (s.pathOf found') .nameTooLong) := by
  cases root : w.isDirectory s.root with
  | false =>
    rw [scanListed, scanListed, root]
    exact .inl rfl
  | true =>
    have ends := result_documentsIn within
    have ends' := result_documentsIn fun found listed => within (h.mem_iff.mpr listed)
    simp only [result_scanListed_of_root root]
    rcases find?_of_perm h with ⟨none, none'⟩ |
      ⟨found, member, found', member', closed, closed', first, first'⟩
    · rw [none] at ends
      rw [none'] at ends'
      rw [ends, ends', sorted_eq_of_perm plain within h]
      exact .inl rfl
    · rw [first] at ends
      rw [first'] at ends'
      by_cases same : found = found'
      · rw [ends, ends', same]
        exact .inl rfl
      · exact .inr ⟨found, member, found', member', same, closed, closed', ends, ends'⟩

end Scanner

/-! ### Compiling -/

theorem Compiler.result_compileWith_congr {scan scan' : Outcome (List DocumentFile)}
    (h : scan.result = scan'.result) (c : Compiler) (w : Workspace) :
    (c.compileWith w scan).result = (c.compileWith w scan').result := by
  unfold Compiler.compileWith
  simp only [result_bind, h]

theorem Compiler.result_compileWith_of_error {c : Compiler} {w : Workspace} {configuration : Path}
    {language : String} {scan : Outcome (List DocumentFile)} {failure : Failure}
    (located : (w.locateConfiguration c.settings.root).result = .ok configuration)
    (chosen : (c.languageFrom w configuration).result = .ok language)
    (fails : scan.result = .error failure) : (c.compileWith w scan).result = .error failure := by
  rw [compileWith, result_bind_of_ok located, result_bind_of_ok chosen, result_bind_of_error fails]

/-- A compilation fails with its scan, unless it has failed before. -/
theorem Compiler.result_compileWith_of_errors {scan scan' : Outcome (List DocumentFile)}
    {failure failure' : Failure} (fails : scan.result = .error failure)
    (fails' : scan'.result = .error failure') (c : Compiler) (w : Workspace) :
    (c.compileWith w scan).result = (c.compileWith w scan').result ∨
      (c.compileWith w scan).result = .error failure ∧
        (c.compileWith w scan').result = .error failure' := by
  cases located : (w.locateConfiguration c.settings.root).result with
  | error early =>
    rw [compileWith, compileWith, result_bind_of_error located, result_bind_of_error located]
    exact .inl rfl
  | ok configuration =>
    cases chosen : (c.languageFrom w configuration).result with
    | error early =>
      rw [compileWith, compileWith, result_bind_of_ok located, result_bind_of_ok located,
        result_bind_of_error chosen, result_bind_of_error chosen]
      exact .inl rfl
    | ok language =>
      exact .inr ⟨result_compileWith_of_error located chosen fails,
        result_compileWith_of_error located chosen fails'⟩

/-- The walks through two listings stop at different directories, neither of which can be opened. The
scans fail at them, and so do the compilations, unless they have failed before. -/
structure Compiler.StopsApart (c : Compiler) (w : Workspace) (listing listing' : List Found)
    (found found' : Found) : Prop where
  apart : found ≠ found'
  listed : found ∈ listing ∧ found' ∈ listing
  closed : c.scanner.outOfReach found = true ∧ c.scanner.outOfReach found' = true
  scan : (c.scanner.scanListed w listing).result =
    .error (Scanner.walkFailure (c.scanner.pathOf found) .nameTooLong)
  scan' : (c.scanner.scanListed w listing').result =
    .error (Scanner.walkFailure (c.scanner.pathOf found') .nameTooLong)
  compile : (c.compileWith w (c.scanner.scanListed w listing)).result =
      (c.compileWith w (c.scanner.scanListed w listing')).result ∨
    (c.compileWith w (c.scanner.scanListed w listing)).result =
        .error (Scanner.walkFailure (c.scanner.pathOf found) .nameTooLong) ∧
      (c.compileWith w (c.scanner.scanListed w listing')).result =
        .error (Scanner.walkFailure (c.scanner.pathOf found') .nameTooLong)

/-- A scan lists the tree in one of the orders. In whatever order it is listed, the scan and the
compilation end in the same way, unless they stop at different directories that cannot be opened. -/
theorem compileWith_eq_of_perm {c : Compiler} {w : Workspace} (plain : w.tree.NoBackslash)
    {listing listing' : List Found} (h : listing.Perm (w.listing c.scanner.root))
    (h' : listing'.Perm (w.listing c.scanner.root)) :
    c.scanner.scan w = c.scanner.scanListed w (w.listing c.scanner.root) ∧
      ((c.scanner.scanListed w listing).result = (c.scanner.scanListed w listing').result ∧
          (c.compileWith w (c.scanner.scanListed w listing)).result =
            (c.compileWith w (c.scanner.scanListed w listing')).result ∨
        ∃ found found', c.StopsApart w listing listing' found found') := by
  refine ⟨rfl, ?_⟩
  rcases Scanner.result_scanListed_of_perm plain h.subset (h.trans h'.symm) with same |
    ⟨found, member, found', member', apart, closed, closed', fails, fails'⟩
  · exact .inl ⟨same, Compiler.result_compileWith_congr same c w⟩
  · exact .inr ⟨found, found', apart, ⟨member, member'⟩, ⟨closed, closed'⟩, fails, fails',
      Compiler.result_compileWith_of_errors fails fails' c w⟩

theorem compileWith_reverse_twoTests :
    ∃ c, (Compiler.prepare twoTests (settingsAt ⟨"/p"⟩)).result = .ok c ∧
      twoTests.tree.NoBackslash ∧
      (twoTests.listing c.scanner.root).reverse.Perm (twoTests.listing c.scanner.root) ∧
      (c.scanner.scanListed twoTests (twoTests.listing c.scanner.root).reverse).result =
        (c.scanner.scan twoTests).result ∧
      (c.compileWith twoTests
          (c.scanner.scanListed twoTests (twoTests.listing c.scanner.root).reverse)).result =
        (c.compile twoTests).result := by
  obtain ⟨c, prepared, sound⟩ := exists_prepared_twoTests
  have plain : twoTests.tree.NoBackslash := by decide +kernel
  have reversed := (twoTests.listing c.scanner.root).reverse_perm
  obtain ⟨places, candidates⟩ :=
    Compiler.configurationCandidates_of_ne twoTests (Compiler.root_ne_of_prepare prepared)
  obtain ⟨-, -, -, -, walks, -⟩ :=
    Compiler.verdict_eq_none_iff.mp (Compiler.verdict_of_isSound sound candidates)
  obtain ⟨own, same | ⟨found, found', stops⟩⟩ := compileWith_eq_of_perm plain reversed (.refl _)
  · exact ⟨c, prepared, plain, reversed, same⟩
  -- Here no directory is out of reach.
  · have closed := stops.closed.1
    rw [walks found (List.mem_reverse.mp stops.listed.1)] at closed
    cases closed

/-! ### Two folders that cannot be opened -/

/-- A folder of the project is out of reach from its root spelled long. -/
private theorem outOfReach_twoFolders {s : Scanner} (rooted : s.root = longRoot) :
    ∃ links, (∀ found ∈ links, s.outOfReach found = false) ∧
      twoFolders.listing s.root = links ++ [⟨["componentes-a"], .directory⟩,
        ⟨["componentes-b"], .directory⟩, ⟨["config.lnegc"], .file .empty⟩] ∧
      ∀ name ∈ ["componentes-a", "componentes-b"], s.outOfReach ⟨[name], .directory⟩ = true := by
  have top : twoFolders.tree.nodes.get? ["p"] = some .directory := by decide
  have beneath : twoFolders.tree.beneath ["p"] = [(["componentes-a"], .directory),
      (["componentes-b"], .directory), (["config.lnegc"], .file .empty)] := by decide
  refine ⟨if twoFolders.isLink s.root then [⟨[], .link s.root.text⟩] else [], ?_, ?_, ?_⟩
  · intro found listed
    split at listed
    · rw [List.mem_singleton.mp listed]
      rfl
    · cases listed
  · rw [Workspace.listing, rooted, lookup_longRoot top]
    dsimp only
    rw [beneath]
    rfl
  · intro name listed
    have member : ([name], Node.directory) ∈ twoFolders.tree.beneath ["p"] := by
      rw [beneath]
      simp only [List.mem_cons, List.not_mem_nil, or_false] at listed
      rcases listed with rfl | rfl <;> simp
    rw [outOfReach_longRoot rooted member]
    simp only [List.mem_cons, List.not_mem_nil, or_false] at listed
    rcases listed with rfl | rfl <;> decide

/-- The order in which the two folders are listed decides which of them the failure names. -/
theorem compileWith_reverse_twoFolders :
    ∃ c path path', (Compiler.prepare twoFolders (settingsAt longRoot)).result = .ok c ∧
      twoFolders.tree.NoBackslash ∧
      (twoFolders.listing c.scanner.root).reverse.Perm (twoFolders.listing c.scanner.root) ∧
      (c.compile twoFolders).result = .error (Scanner.walkFailure path .nameTooLong) ∧
      (c.compileWith twoFolders
          (c.scanner.scanListed twoFolders (twoFolders.listing c.scanner.root).reverse)).result =
        .error (Scanner.walkFailure path' .nameTooLong) ∧
      path ≠ path' := by
  have top : twoFolders.tree.nodes.get? ["p"] = some .directory := by decide
  obtain ⟨c, ready⟩ := exists_readyAtLongRoot top (by decide) (settingsAt longRoot).output
  have plain : twoFolders.tree.NoBackslash := by decide +kernel
  have holds := Scanner.isDirectory_of_lookup ready.leads
  obtain ⟨located, language, chosen⟩ :=
    Compiler.exists_languageFrom (ready.candidates twoFolders) ready.located ready.text
  obtain ⟨links, reached, listing, closed⟩ := outOfReach_twoFolders ready.rooted
  have none : links.find? c.scanner.outOfReach = none :=
    List.find?_eq_none.mpr fun found listed => by simp [reached found listed]
  have first : (twoFolders.listing c.scanner.root).find? c.scanner.outOfReach =
      some ⟨["componentes-a"], .directory⟩ := by
    rw [listing, List.find?_append, none, List.find?_cons_of_pos (closed _ (by simp))]
    rfl
  have last : (twoFolders.listing c.scanner.root).reverse.find? c.scanner.outOfReach =
      some ⟨["componentes-b"], .directory⟩ := by
    rw [listing, List.reverse_append, List.find?_append]
    simp only [List.reverse_cons, List.reverse_nil, List.nil_append, List.cons_append]
    rw [List.find?_cons_of_neg (by simp [Scanner.outOfReach]),
      List.find?_cons_of_pos (closed _ (by simp))]
    rfl
  have stops : ∀ listing found, listing ⊆ twoFolders.listing c.scanner.root →
      listing.find? c.scanner.outOfReach = some found →
      (c.compileWith twoFolders (c.scanner.scanListed twoFolders listing)).result =
        .error (Scanner.walkFailure (c.scanner.pathOf found) .nameTooLong) := by
    intro listing found within first
    refine Compiler.result_compileWith_of_error located chosen ?_
    rw [Scanner.result_scanListed_of_root holds, Scanner.result_documentsIn within, first]
  refine ⟨c, _, _, ready.prepared, plain, List.reverse_perm _, stops _ _ (fun _ => id) first,
    stops _ _ (List.reverse_perm _).subset last, ?_⟩
  -- The paths end in the names of the folders.
  intro same
  rw [Scanner.pathOf_eq (by simp), Scanner.pathOf_eq (by simp), ready.rooted,
    join_longRoot (by decide), join_longRoot (by decide), Path.mk.injEq, ← String.toList_inj] at same
  simp only [String.toList_append] at same
  exact absurd (List.append_cancel_left same) (by decide)

end SpecPrompt
