import SpecPrompt.Proofs.Project.Scan

/-!
# Sound settings

What it takes for settings to be accepted, and for a scanner to be made from them.

## Main results

- `Settings.validate_eq_ok_iff`: the settings that are accepted.
- `Scanner.ofSettings_eq_ok_iff`: the scanner that is made from settings.
-/

namespace SpecPrompt

open Outcome

theorem require_eq_ok_iff {condition : Bool} {failure : Failure} {u : Unit} :
    require condition failure = .ok u ↔ condition = true := by
  unfold require
  split
  next met => exact iff_of_true rfl met
  next unmet => exact iff_of_false nofun unmet

theorem eq_of_require_eq_error {condition : Bool} {expected failure : Failure}
    (h : require condition expected = .error failure) : failure = expected := by
  unfold require at h
  split at h
  · cases h
  · exact (Except.error.inj h).symm

/-! ### Settings that are accepted -/

theorem Workspace.exists_absolute (w : Workspace) {root : Path} (h : root.text ≠ "") :
    ∃ whole, w.absolute root = .ok whole := by
  unfold absolute Path.absolute?
  rw [if_neg (by simpa using h)]
  by_cases slash : root.text.toList.getLast? = some '/'
  · simp only [slash, if_true]
    exact ⟨_, rfl⟩
  · simp only [slash, if_false]
    exact ⟨_, rfl⟩

theorem Workspace.pathExists_of_isDirectory {w : Workspace} {p : Path}
    (directory : w.isDirectory p = true) : w.pathExists p = true := by
  obtain ⟨loc, leads⟩ := Scanner.exists_lookup_of_isDirectory directory
  rw [pathExists, leads]
  rfl

namespace Settings

variable {w : Workspace} {s : Settings}

/-- What settings must be like to be accepted. The extension need not be a glob. -/
structure Accepted (w : Workspace) (s : Settings) : Prop where
  root : w.isDirectory s.root = true
  extension : s.extension.isEmpty = false ∧ s.extension.toList.head? ≠ some '.'
  defaultLanguage : Text.isBlank s.defaultLanguage = false
  targetLanguage : ∀ language, s.targetLanguage = some language → Text.isBlank language = false
  excludes : ∀ pattern ∈ s.excludes, ∃ glob, readGlob pattern = .ok glob
  templates : ∀ directory, s.templates = some directory → w.isDirectory directory = true

theorem validate_eq_ok_iff : s.validate w = .ok () ↔ s.Accepted w := by
  unfold validate
  -- Each step succeeds if its condition holds; only the templates are still a case of their own.
  simp only [except_bind_eq_ok_iff, require_eq_ok_iff, forM_eq_ok_iff]
  constructor
  · rintro ⟨_, -, _, root, _, extension, _, default, _, target, _, excludes, templates⟩
    refine ⟨root, ?_, ?_, ?_, ?_, ?_⟩
    · simpa using extension
    · simpa using default
    · intro language named
      simpa [named] using target
    · intro pattern listed
      obtain ⟨glob, read, -⟩ := excludes pattern listed
      exact ⟨glob, read⟩
    · intro directory named
      rw [named] at templates
      exact require_eq_ok_iff.mp templates
  · intro h
    refine ⟨(), Workspace.pathExists_of_isDirectory h.root, (), h.root, (), ?_, (), ?_, (), ?_, (), ?_, ?_⟩
    · simpa using h.extension
    · simpa using h.defaultLanguage
    · cases named : s.targetLanguage with
      | none => rfl
      | some language => simpa using h.targetLanguage language named
    · intro pattern listed
      obtain ⟨glob, read⟩ := h.excludes pattern listed
      exact ⟨glob, read, rfl⟩
    · cases named : s.templates with
      | none => rfl
      | some directory => exact require_eq_ok_iff.mpr (h.templates directory named)

/-- Settings that are accepted name a root: an empty path leads nowhere. -/
theorem Accepted.root_ne (h : s.Accepted w) : s.root.text ≠ "" := by
  obtain ⟨loc, leads⟩ := Scanner.exists_lookup_of_isDirectory h.root
  exact (Workspace.checkText_eq_ok_iff.mp (Workspace.lookup_eq_ok_iff.mp leads).1).1

end Settings

/-! ### Globs that can be used -/

/-- A set of globs can be used if those that are not compared do not nest too deep. -/
theorem Glob.checkSet_eq_ok_iff {globs : List Glob} :
    checkSet globs = .ok () ↔ ∀ g ∈ globs, g.method = .comparison ∨ g.isTooDeep = false := by
  -- The globs with an expression of their own are looked through first, then those that share one.
  have own : globs.find? (fun g => g.method = .extension && g.isTooDeep) = none ↔
      ∀ g ∈ globs, g.method = .extension → g.isTooDeep = false := by
    simp [List.find?_eq_none]
  have shared : (globs.filter fun g => g.method = .shared).findIdx? isTooDeep = none ↔
      ∀ g ∈ globs, g.method = .shared → g.isTooDeep = false := by
    simp [List.findIdx?_eq_none_iff]
  have both : checkSet globs = .ok () ↔
      globs.find? (fun g => g.method = .extension && g.isTooDeep) = none ∧
        (globs.filter fun g => g.method = .shared).findIdx? isTooDeep = none := by
    unfold checkSet
    split
    next found => simp [found]
    next none =>
      rw [none]
      split
      next found => simp [found]
      next none' => simp [none']
  rw [both, own, shared]
  constructor
  · rintro ⟨own, shared⟩ g listed
    cases method : g.method with
    | comparison => exact .inl rfl
    | extension => exact .inr (own g listed method)
    | shared => exact .inr (shared g listed method)
  · intro usable
    refine ⟨fun g listed method => ?_, fun g listed method => ?_⟩
    · exact (usable g listed).resolve_left (by simp [method])
    · exact (usable g listed).resolve_left (by simp [method])

namespace Scanner

variable {w : Workspace} {settings : Settings} {s : Scanner}

theorem documentGlob_eq_ok_iff {extension : String} {glob : Glob} :
    documentGlob extension = .ok glob ↔
      readGlob ("**/*." ++ extension) = .ok glob ∧ glob.isTooDeep = false := by
  unfold documentGlob
  simp only [except_bind_eq_ok_iff, require_eq_ok_iff, Except.ok.injEq]
  constructor
  · rintro ⟨glob, read, _, shallow, rfl⟩
    exact ⟨read, by simpa using shallow⟩
  · rintro ⟨read, shallow⟩
    exact ⟨glob, read, (), by simpa using shallow, rfl⟩

/-- All that it takes to make a scanner. -/
theorem ofSettings_eq_ok_iff : ofSettings w settings = .ok s ↔
    w.absolute settings.root = .ok s.root ∧ documentGlob settings.extension = .ok s.documents ∧
      settings.excludes.mapM readGlob = .ok s.excludes ∧ Glob.checkSet s.excludes = .ok () := by
  unfold ofSettings
  simp only [except_bind_eq_ok_iff, mapError_eq_ok_iff, Except.ok.injEq]
  constructor
  · rintro ⟨root, absolute, documents, read, excludes, reads, _, checked, rfl⟩
    exact ⟨absolute, read, reads, checked⟩
  · rintro ⟨absolute, read, reads, checked⟩
    exact ⟨s.root, absolute, s.documents, read, s.excludes, reads, (), checked, rfl⟩

end Scanner

end SpecPrompt
