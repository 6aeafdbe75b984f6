import SpecPrompt.Proofs.Project.Discovery
import SpecPrompt.Proofs.Project.Enumeration

/-!
# Paths from the root

A document is known by its path from the root: the documents are sorted by it, it decides on the categories,
and events name it. It shows a backslash as a slash. Apart from that it is the names that lead to the document,
with slashes between them, so it tells documents apart whose names hold no backslash, and leads to them from
the root.

A backslash in a name is lost, and cannot be found again. No path joined to the root holds as many backslashes
as the document's own path then, and the documents of two paths may get one.

## Main result

`relative_scan`: which documents have a path from the root of their own, and which are found by it.
-/

namespace SpecPrompt

/-! ### The characters of a path -/

namespace Chars

theorem count_intercalate {c : Char} {separator : List Char} (h : c ∉ separator)
    (texts : List (List Char)) : (separator.intercalate texts).count c = texts.flatten.count c := by
  induction texts with
  | nil => rfl
  | cons text texts ih =>
    rcases eq_or_ne texts [] with rfl | more
    · simp
    · rw [List.intercalate_cons_of_ne_nil more, List.count_append, List.count_append, ih,
        List.count_eq_zero.mpr h, List.flatten_cons, List.count_append, Nat.add_zero]

end Chars

namespace Path

variable {c : Char}

/-- A path's components hold all its characters but slashes and dots. -/
theorem count_components (noSlash : c ≠ '/') (noDot : c ≠ '.') (p : Path) :
    p.components.flatten.count c = p.text.toList.count c := by
  have lead : p.lead.chars.count c = 0 := by
    apply List.count_eq_zero.mpr
    cases p.lead with
    | root => simpa [Lead.chars] using noSlash
    | here => simpa [Lead.chars] using noDot
    | none => simp [Lead.chars]
  -- A piece that is no component is empty or a dot.
  have kept : ∀ pieces : List (List Char),
      (pieces.filter isComponent).flatten.count c = pieces.flatten.count c := by
    intro pieces
    induction pieces with
    | nil => rfl
    | cons piece pieces ih =>
      rw [List.flatten_cons, List.count_append, List.filter_cons]
      split
      · rw [List.flatten_cons, List.count_append, ih]
      next dropped =>
        have small : piece = [] ∨ piece = ['.'] := by
          simpa [isComponent, Decidable.or_iff_not_imp_left] using dropped
        have none : piece.count c = 0 := by
          rcases small with rfl | rfl
          · rfl
          · simpa [List.count_eq_zero] using noDot
        rw [ih, none, Nat.zero_add]
  have slash : c ∉ ['/'] := by simpa using noSlash
  rw [toList_text, List.count_append, lead, Chars.count_intercalate slash, Nat.zero_add, components, kept]

theorem count_eq_of_sameAs {p q : Path} (same : p.sameAs q = true) (noSlash : c ≠ '/')
    (noDot : c ≠ '.') : p.text.toList.count c = q.text.toList.count c := by
  have components : p.components = q.components := by
    rw [sameAs, Bool.and_eq_true] at same
    exact of_decide_eq_true same.2
  rw [← count_components noSlash noDot, components, count_components noSlash noDot]

/-- Joining brings in no character but a slash. -/
theorem count_join_le (noSlash : c ≠ '/') (p q : Path) :
    (p.join q).text.toList.count c ≤ p.text.toList.count c + q.text.toList.count c := by
  have slash : "/".toList.count c = 0 := by simpa [List.count_eq_zero] using noSlash
  unfold join
  split
  · omega
  split
  · rw [String.toList_append, List.count_append]
  · rw [String.toList_append, String.toList_append, List.count_append, List.count_append]
    omega

end Path

theorem count_replaceChar {old new : Char} (apart : old ≠ new) (s : String) :
    (Text.replaceChar old new s).toList.count old = 0 := by
  rw [Text.replaceChar, String.toList_ofList, List.count_eq_zero, List.mem_map]
  rintro ⟨c, -, same⟩
  split at same
  · exact apart same.symm
  next other => exact other same

/-! ### The documents of a scan -/

namespace Scanner

variable {s : Scanner} {w : Workspace} {loc : Location} {names : List String} {a b file : DocumentFile}
  {files : List DocumentFile}

/-- No name on the way from the root to the document holds a backslash. -/
def HasPlainNames (s : Scanner) (file : DocumentFile) : Prop :=
  ∃ names, names ≠ [] ∧ PlainNames names ∧ file.path = s.root.join ⟨"/".intercalate names⟩

/-- The names that a document was found under. -/
theorem exists_names_of_mem_accepted (directory : w.lookup s.root = .ok (loc, .directory))
    (listed : file ∈ s.accepted w) :
    ∃ names, names ≠ [] ∧ (∀ name ∈ names, IsName name) ∧
      file.path = s.root.join ⟨"/".intercalate names⟩ ∧
      file.relative = Text.replaceChar '\\' '/' ("/".intercalate names) := by
  obtain ⟨names, holds, -, rfl⟩ := (mem_accepted_iff directory).mp listed
  obtain ⟨node, more, found, -⟩ := (holdsFile_iff directory).mp holds
  exact ⟨names, more, isName_of_get? found, rfl, rfl⟩

/-- The path from the root of a document with plain names is the text of these names. -/
theorem join_relative_of_hasPlainNames (directory : w.lookup s.root = .ok (loc, .directory))
    (listed : file ∈ s.accepted w) (plain : s.HasPlainNames file) :
    s.root.join ⟨file.relative⟩ = file.path := by
  obtain ⟨names, more, valid, place, shown⟩ := exists_names_of_mem_accepted directory listed
  obtain ⟨names', more', plain, place'⟩ := plain
  -- The path gives back the names that it was made from.
  obtain rfl : names' = names :=
    join_injective directory more' more plain.named valid (place'.symm.trans place)
  rw [shown, relative_of_plainNames plain, place]

/-- A backslash that the path from the root does not show is missing in what it is joined to. -/
theorem hasPlainNames_of_sameAs (directory : w.lookup s.root = .ok (loc, .directory))
    (listed : file ∈ s.accepted w) (same : (s.root.join ⟨file.relative⟩).sameAs file.path = true) :
    s.HasPlainNames file := by
  obtain ⟨names, more, valid, place, shown⟩ := exists_names_of_mem_accepted directory listed
  refine ⟨names, more, ⟨valid, fun name member inside => ?_⟩, place⟩
  have joined : (s.root.join ⟨file.relative⟩).text.toList.count '\\' ≤ s.root.text.toList.count '\\' := by
    have few := Path.count_join_le (c := '\\') (by decide) s.root ⟨file.relative⟩
    have none : file.relative.toList.count '\\' = 0 := by
      rw [shown, count_replaceChar (by decide)]
    exact few.trans (by rw [none, Nat.add_zero])
  have own : s.root.text.toList.count '\\' < file.path.text.toList.count '\\' := by
    obtain ⟨before, spelled, start⟩ := toList_join (root_ne_empty directory) valid
    have root : before.count '\\' = s.root.text.toList.count '\\' := by
      rcases start with bare | slashed
      · rw [bare]
      · rw [slashed, List.count_append]
        rfl
    have some : 0 < ("/".intercalate names).toList.count '\\' := by
      apply List.count_pos_iff.mpr
      rw [String.toList_intercalate]
      exact Chars.mem_intercalate_of_mem (List.mem_map_of_mem member) inside
    rw [place, spelled, List.count_append, List.count_cons_of_ne (by decide)]
    omega
  have equal := Path.count_eq_of_sameAs (c := '\\') same (by decide) (by decide)
  omega

/-- Documents with one path from the root are one document, unless a name holds a backslash. -/
theorem path_eq_of_relative_eq (directory : w.lookup s.root = .ok (loc, .directory))
    (first : a ∈ s.accepted w) (second : b ∈ s.accepted w) (same : a.relative = b.relative)
    (plain : s.HasPlainNames a) (plain' : s.HasPlainNames b) : a.path = b.path := by
  rw [← join_relative_of_hasPlainNames directory first plain, same,
    join_relative_of_hasPlainNames directory second plain']

/-- Each document has a path from the root that is above those of all documents before it, and leads to it
when it is joined to the root. Only documents with a backslash in a name are excepted: one of them may
have the same path from the root as another document, and none is found by it. -/
theorem relative_scan (scanned : (s.scan w).result = .ok files) :
    files.Pairwise (fun a b => a.relative < b.relative ∨
        a.relative = b.relative ∧ ¬ (s.HasPlainNames a ∧ s.HasPlainNames b)) ∧
      ∀ file ∈ files, (s.HasPlainNames file → s.root.join ⟨file.relative⟩ = file.path) ∧
        ((s.root.join ⟨file.relative⟩).sameAs file.path = true → s.HasPlainNames file) := by
  obtain ⟨⟨holds, -⟩, rfl⟩ := scan_eq_ok_iff.mp scanned
  obtain ⟨loc, directory⟩ := exists_lookup_of_isDirectory holds
  refine ⟨?_, fun file listed => ⟨join_relative_of_hasPlainNames directory listed,
    hasPlainNames_of_sameAs directory listed⟩⟩
  have ordered : (s.accepted w).Pairwise fun a b => a.relative ≤ b.relative := by
    rw [accepted_eq_sorted]
    exact pairwise_sorted _
  have apart := List.pairwise_map.mp (nodup_paths_accepted directory)
  refine (ordered.and apart).imp_of_mem ?_
  rintro a b first second ⟨below, different⟩
  by_cases strictly : a.relative < b.relative
  · exact .inl strictly
  · have same : a.relative = b.relative := String.le_antisymm below (String.not_lt.mp strictly)
    exact .inr ⟨same, fun plain =>
      different (path_eq_of_relative_eq directory first second same plain.1 plain.2)⟩

/-! ### A document with a backslash in its name -/

/-- A project at `/p` with two documents, one in the folder `tests`, and one whose name is the first one's
path with a backslash for the slash. -/
def slashedTest : Workspace :=
  let tree := (FileTree.empty.place ["p"] .directory).place ["p", "tests"] .directory
  let tree := tree.place ["p", "tests", "a.lnegc"] (.file .empty)
  ⟨tree.place ["p", "tests\\a.lnegc"] (.file .empty), []⟩

theorem exists_scan_slashedTest :
    ∃ s files, ofSettings slashedTest (settingsAt ⟨"/p"⟩) = .ok s ∧ s.root = ⟨"/p"⟩ ∧
      (s.scan slashedTest).result = .ok files ∧
      files.Perm [⟨⟨"/p/tests/a.lnegc"⟩, "tests/a.lnegc"⟩, ⟨⟨"/p/tests\\a.lnegc"⟩, "tests/a.lnegc"⟩] := by
  obtain ⟨s, asked, root, holds, walks, found⟩ := Outcome.exists_ok_of_decide
    (x := ofSettings slashedTest (settingsAt ⟨"/p"⟩))
    (p := fun s => s.root = ⟨"/p"⟩ ∧ slashedTest.isDirectory s.root = true ∧ s.Walks slashedTest ∧
      ((slashedTest.listing s.root).filter (s.accepts slashedTest)).map s.documentAt =
        [⟨⟨"/p/tests/a.lnegc"⟩, "tests/a.lnegc"⟩, ⟨⟨"/p/tests\\a.lnegc"⟩, "tests/a.lnegc"⟩])
    (by decide +kernel)
  refine ⟨s, s.accepted slashedTest, asked, root, scan_eq_ok_iff.mpr ⟨⟨holds, walks⟩, rfl⟩, ?_⟩
  rw [accepted_eq_sorted, found]
  exact sorted_perm _

/-- The two documents have one path from the root, and it leads to only one of them. -/
theorem relative_scan_slashedTest :
    ∃ s files, ofSettings slashedTest (settingsAt ⟨"/p"⟩) = .ok s ∧
      (s.scan slashedTest).result = .ok files ∧
      ¬ files.Pairwise (fun a b => a.relative < b.relative) ∧
      ∃ file ∈ files, (s.root.join ⟨file.relative⟩).sameAs file.path = false := by
  obtain ⟨s, files, asked, root, scanned, found⟩ := exists_scan_slashedTest
  refine ⟨s, files, asked, scanned, fun increasing => ?_,
    ⟨⟨"/p/tests\\a.lnegc"⟩, "tests/a.lnegc"⟩, found.mem_iff.mpr (by simp), ?_⟩
  · -- Increasing paths differ, but these are twice the same one.
    have apart : (files.map DocumentFile.relative).Nodup :=
      List.pairwise_map.mpr (increasing.imp String.ne_of_lt)
    have twice := (found.map DocumentFile.relative).nodup_iff.mp apart
    exact absurd twice (by decide)
  · rw [root]
    decide +kernel

/-- Of the two documents the one in the folder is found by its path from the root. -/
theorem relative_scan_foldered :
    ∃ (s : Scanner) (files : List DocumentFile) (file : DocumentFile),
      (s.scan slashedTest).result = .ok files ∧ file ∈ files ∧ s.HasPlainNames file ∧
      s.root.join ⟨file.relative⟩ = file.path := by
  obtain ⟨s, files, asked, root, scanned, found⟩ := exists_scan_slashedTest
  have listed : (⟨⟨"/p/tests/a.lnegc"⟩, "tests/a.lnegc"⟩ : DocumentFile) ∈ files :=
    found.mem_iff.mpr (by simp)
  have plain : s.HasPlainNames ⟨⟨"/p/tests/a.lnegc"⟩, "tests/a.lnegc"⟩ := by
    refine ⟨["tests", "a.lnegc"], by simp, ⟨by decide, by decide⟩, ?_⟩
    rw [root]
    decide +kernel
  exact ⟨s, files, _, scanned, listed, plain, ((relative_scan scanned).2 _ listed).1 plain⟩

end Scanner

end SpecPrompt
