import SpecPrompt.Proofs.Glob.Reading
import SpecPrompt.Proofs.Project.Verdict

/-!
# Making a compiler ready

Settings that are accepted need not lead to a compiler. Whether the extension is a glob is only found out when the
documents' glob is made from it. It fails just where the extension by itself fails, with the same flaw. And a glob
that has been read may still nest too deep to be matched by an expression. This matters for the documents' glob, and
for those that leave documents out unless texts can be compared instead.

Nothing else is in the way of a compiler, if no templates are read.

## Main result

`prepare_accepted`: which of the settings that are accepted lead to a compiler, and how the others fail.
-/

namespace SpecPrompt

open Outcome

variable {w : Workspace} {settings : Settings} {failure : Failure}

/-! ### The documents' glob -/

/-- The text before the extension leaves nothing open. -/
theorem foldlM_documentStart :
    "**/*.".toList.foldlM Glob.Course.read .start = .ok .start := by
  rfl

theorem exists_documentGlob_iff {extension : String} :
    (∃ glob, Scanner.documentGlob extension = .ok glob) ↔
      (∃ glob, Glob.parse extension = .ok glob) ∧
        ∀ glob, Glob.parse ("**/*." ++ extension) = .ok glob → glob.isTooDeep = false := by
  rw [← Glob.exists_parse_append_iff foldlM_documentStart]
  simp only [Scanner.documentGlob_eq_ok_iff, readGlob, mapError_eq_ok_iff]
  constructor
  · rintro ⟨glob, read, shallow⟩
    -- Reading has one result only, so it is this glob that does not nest too deep.
    refine ⟨⟨glob, read⟩, fun glob' read' => ?_⟩
    obtain rfl := Except.ok.inj (read.symm.trans read')
    exact shallow
  · rintro ⟨⟨glob, read⟩, shallow⟩
    exact ⟨glob, read, shallow glob read⟩

theorem documentGlob_of_flaw {extension : String} {flaw : Glob.Flaw}
    (flawed : Glob.parse extension = .error flaw) :
    Scanner.documentGlob extension = .error (.badPattern ("**/*." ++ extension) flaw) := by
  have behind := (Glob.parse_append_eq_error_iff foldlM_documentStart).mpr flawed
  rw [Scanner.documentGlob, readGlob, behind]
  rfl

theorem of_documentGlob_eq_error {extension : String}
    (refused : Scanner.documentGlob extension = .error failure) :
    ∃ flaw, failure = .badPattern ("**/*." ++ extension) flaw := by
  rcases except_bind_eq_error_iff.mp refused with unread | ⟨glob, -, refused⟩
  · obtain ⟨flaw, -, same⟩ := mapError_eq_error_iff.mp unread
    exact ⟨flaw, same⟩
  rcases except_bind_eq_error_iff.mp refused with deep | ⟨_, -, done⟩
  · exact ⟨_, eq_of_require_eq_error deep⟩
  · cases done

/-! ### The scanner -/

namespace Settings

/-- What it takes for settings that are accepted to lead to a compiler. -/
structure Usable (s : Settings) : Prop where
  extension : ∃ glob, Glob.parse s.extension = .ok glob
  documents : ∀ glob, Glob.parse ("**/*." ++ s.extension) = .ok glob → glob.isTooDeep = false
  excludes : ∀ pattern ∈ s.excludes, ∃ glob, Glob.parse pattern = .ok glob ∧
    (glob.method = .comparison ∨ glob.isTooDeep = false)

theorem exists_ofSettings_iff (accepted : settings.Accepted w) :
    (∃ s, Scanner.ofSettings w settings = .ok s) ↔ settings.Usable := by
  -- The globs of documents to leave out are read one by one and then checked as a set.
  have excludes : (∃ globs, settings.excludes.mapM readGlob = .ok globs ∧ Glob.checkSet globs = .ok ()) ↔
      ∀ pattern ∈ settings.excludes, ∃ glob, Glob.parse pattern = .ok glob ∧
        (glob.method = .comparison ∨ glob.isTooDeep = false) := by
    simp only [Glob.checkSet_eq_ok_iff, exists_mapM_iff, readGlob, mapError_eq_ok_iff]
  constructor
  · rintro ⟨s, made⟩
    obtain ⟨-, documents, read, checked⟩ := Scanner.ofSettings_eq_ok_iff.mp made
    obtain ⟨extension, shallow⟩ := exists_documentGlob_iff.mp ⟨_, documents⟩
    exact ⟨extension, shallow, excludes.mp ⟨_, read, checked⟩⟩
  · rintro ⟨extension, shallow, usable⟩
    obtain ⟨root, absolute⟩ := w.exists_absolute accepted.root_ne
    obtain ⟨documents, read⟩ := exists_documentGlob_iff.mpr ⟨extension, shallow⟩
    obtain ⟨globs, reads, checked⟩ := excludes.mpr usable
    exact ⟨⟨root, documents, globs⟩,
      Scanner.ofSettings_eq_ok_iff.mpr ⟨absolute, read, reads, checked⟩⟩

/-- Settings that are accepted fail to give a scanner for one of two patterns: that of the documents, or all
patterns of documents to leave out. -/
theorem of_ofSettings_eq_error (accepted : settings.Accepted w)
    (refused : Scanner.ofSettings w settings = .error failure) :
    ∃ flaw, failure = .badPattern ("**/*." ++ settings.extension) flaw ∨
      failure = .badPattern (", ".intercalate settings.excludes) flaw := by
  rcases except_bind_eq_error_iff.mp refused with lost | ⟨_, -, refused⟩
  -- The root is not empty, so there is an absolute path for it.
  · obtain ⟨root, absolute⟩ := w.exists_absolute accepted.root_ne
    rw [absolute] at lost
    cases lost
  rcases except_bind_eq_error_iff.mp refused with documents | ⟨_, -, refused⟩
  · obtain ⟨flaw, same⟩ := of_documentGlob_eq_error documents
    exact ⟨flaw, .inl same⟩
  rcases except_bind_eq_error_iff.mp refused with unread | ⟨globs, -, refused⟩
  -- The patterns have been read before, when the settings were accepted.
  · obtain ⟨globs, read, -⟩ := exists_mapM_iff (p := fun _ => True) |>.mpr fun pattern listed => by
      obtain ⟨glob, read⟩ := accepted.excludes pattern listed
      exact ⟨glob, read, trivial⟩
    rw [read] at unread
    cases unread
  rcases except_bind_eq_error_iff.mp refused with unfit | ⟨_, -, done⟩
  · obtain ⟨flaw, -, same⟩ := mapError_eq_error_iff.mp unfit
    exact ⟨flaw, .inr same⟩
  · cases done

end Settings

/-! ### The compiler -/

namespace Compiler

theorem result_prepare (accepted : settings.validate w = .ok ()) (standard : settings.templates = none) :
    (prepare w settings).result =
      (Scanner.ofSettings w settings).map fun scanner => ⟨settings, scanner, Prompt.builtin⟩ := by
  unfold prepare Prompt.loadTemplates
  rw [accepted, standard]
  cases Scanner.ofSettings w settings <;> rfl

/-- Settings that are accepted, with the built-in templates, lead to a compiler if and only if their extension is
a glob and none of the globs that are matched by expressions nests too deep. The extension's own flaw is the flaw of
the documents' pattern, and nothing fails but this pattern or those of documents to leave out. -/
theorem prepare_accepted (accepted : settings.validate w = .ok ()) (standard : settings.templates = none) :
    ((∃ c, (prepare w settings).result = .ok c) ↔ settings.Usable) ∧
      (∀ flaw, Glob.parse settings.extension = .error flaw →
        (prepare w settings).result = .error (.badPattern ("**/*." ++ settings.extension) flaw)) ∧
      ∀ failure, (prepare w settings).result = .error failure →
        ∃ flaw, failure = .badPattern ("**/*." ++ settings.extension) flaw ∨
          failure = .badPattern (", ".intercalate settings.excludes) flaw := by
  have sound := Settings.validate_eq_ok_iff.mp accepted
  rw [result_prepare accepted standard, ← Settings.exists_ofSettings_iff sound]
  refine ⟨?_, fun flaw flawed => ?_, fun failure refused => ?_⟩
  · cases Scanner.ofSettings w settings <;> simp [Except.map]
  -- The documents' glob is made before the patterns of documents to leave out are read.
  · obtain ⟨root, absolute⟩ := w.exists_absolute sound.root_ne
    rw [Scanner.ofSettings, absolute, documentGlob_of_flaw flawed]
    rfl
  · cases made : Scanner.ofSettings w settings with
    | ok s =>
      rw [made] at refused
      cases refused
    | error failure' =>
      rw [made] at refused
      obtain rfl : failure' = failure := Except.error.inj refused
      exact Settings.of_ofSettings_eq_error sound made

/-! ### Settings that are accepted and refused later -/

/-- The project with two tests, its documents looked for by an extension that opens a group. -/
def openExtension : Settings := { root := ⟨"/p"⟩, extension := "\x7ba" }

/-- 260 groups, each around the next one. -/
def deepCharacters : List Char :=
  List.replicate 260 '\x7b' ++ 'a' :: List.replicate 260 '\x7d'

/-- The groups as one text. -/
def deepPattern : String := String.ofList deepCharacters

/-- The project with two tests, with documents left out by a pattern that nests too deep. -/
def deepExclusion : Settings := { root := ⟨"/p"⟩, excludes := [deepPattern] }

theorem isDirectory_root_twoTests : twoTests.isDirectory ⟨"/p"⟩ = true := by
  decide +kernel

theorem exists_parse_deepPattern :
    ∃ glob, Glob.parse deepPattern = .ok glob ∧ glob.method ≠ .comparison ∧ glob.isTooDeep = true := by
  rw [Glob.parse, deepPattern, String.toList_ofList]
  exact exists_ok_of_decide (by decide +kernel)

theorem prepare_accepted_refused :
    (openExtension.validate twoTests = .ok () ∧ openExtension.templates = none ∧
        (prepare twoTests openExtension).result = .error (.badPattern "**/*.\x7ba" .unclosedGroup)) ∧
      deepExclusion.validate twoTests = .ok () ∧ deepExclusion.templates = none ∧
        ¬ ∃ c, (prepare twoTests deepExclusion).result = .ok c := by
  obtain ⟨glob, read, method, deep⟩ := exists_parse_deepPattern
  have openSound : openExtension.Accepted twoTests :=
    ⟨isDirectory_root_twoTests, ⟨by decide, by decide⟩, by decide, nofun, nofun, nofun⟩
  have deepSound : deepExclusion.Accepted twoTests := by
    refine ⟨isDirectory_root_twoTests, ⟨by decide, by decide⟩, by decide, nofun, ?_, nofun⟩
    intro pattern listed
    obtain rfl := List.mem_singleton.mp listed
    exact ⟨glob, by rw [readGlob, read]; rfl⟩
  have openValid := Settings.validate_eq_ok_iff.mpr openSound
  have deepValid := Settings.validate_eq_ok_iff.mpr deepSound
  refine ⟨⟨openValid, rfl, ?_⟩, deepValid, rfl, ?_⟩
  · have flawed : Glob.parse openExtension.extension = .error .unclosedGroup := by rfl
    obtain ⟨root, absolute⟩ := twoTests.exists_absolute openSound.root_ne
    rw [result_prepare openValid rfl, Scanner.ofSettings, absolute, documentGlob_of_flaw flawed]
    rfl
  · rintro ⟨c, prepared⟩
    -- A scanner would be made of globs that do not nest too deep.
    have made := (of_prepare_eq_ok prepared).2.1
    have usable := (Settings.exists_ofSettings_iff deepSound).mp ⟨_, made⟩
    obtain ⟨glob', read', fine⟩ := usable.excludes deepPattern (by simp [deepExclusion])
    obtain rfl := Except.ok.inj (read.symm.trans read')
    rcases fine with plain | shallow
    · exact method plain
    · rw [deep] at shallow
      cases shallow

/-- The project with two tests, with documents of two extensions and one of them left out. -/
def twoExtensions : Settings :=
  { root := ⟨"/p"⟩, extension := "\x7blnegc,md\x7d", excludes := ["tests/[xz]*"] }

theorem prepare_accepted_twoExtensions :
    twoExtensions.validate twoTests = .ok () ∧ twoExtensions.templates = none ∧
      twoExtensions.Usable ∧ ∃ c, (prepare twoTests twoExtensions).result = .ok c := by
  obtain ⟨extension, read, -⟩ : ∃ glob, Glob.parse twoExtensions.extension = .ok glob ∧ True :=
    exists_ok_of_decide (by decide +kernel)
  obtain ⟨documents, read', shallow⟩ :
      ∃ glob, Glob.parse ("**/*." ++ twoExtensions.extension) = .ok glob ∧ glob.isTooDeep = false :=
    exists_ok_of_decide (by decide +kernel)
  obtain ⟨exclude, read'', shallow'⟩ :
      ∃ glob, Glob.parse "tests/[xz]*" = .ok glob ∧ glob.isTooDeep = false :=
    exists_ok_of_decide (by decide +kernel)
  have accepted : twoExtensions.validate twoTests = .ok () := by
    refine Settings.validate_eq_ok_iff.mpr
      ⟨isDirectory_root_twoTests, ⟨by decide, by decide⟩, by decide, nofun, ?_, nofun⟩
    intro pattern listed
    obtain rfl := List.mem_singleton.mp listed
    exact ⟨exclude, by rw [readGlob, read'']; rfl⟩
  have usable : twoExtensions.Usable := by
    refine ⟨⟨extension, read⟩, fun glob found => ?_, fun pattern listed => ?_⟩
    · obtain rfl := Except.ok.inj (read'.symm.trans found)
      exact shallow
    · obtain rfl := List.mem_singleton.mp listed
      exact ⟨exclude, read'', .inr shallow'⟩
  exact ⟨accepted, rfl, usable, (prepare_accepted accepted rfl).1.mpr usable⟩

end Compiler

end SpecPrompt
