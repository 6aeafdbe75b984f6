import SpecPrompt.Project.Compile
import SpecPrompt.Proofs.Project.Settings
import SpecPrompt.Proofs.Prompt.ClosedForm

/-!
# What a compilation fails for

With the built-in templates a compilation fails only for its configuration, its root, a directory
beneath it that cannot be opened, or a file that it selects. Each step has the first of its flaws, and
the first flaw of all of them decides how the compilation ends. Rendering has none, and a file is read
even if another one of its name replaces it.

## Main results

- `Compiler.endsIn_compile`: a compilation ends as its first flaw says.
- `Compiler.verdict_eq_none_iff`: when there is no flaw.
-/

namespace SpecPrompt

open Outcome

namespace Workspace

variable {w : Workspace} {p : Path}

/-- Whether a path leads to a file that is UTF-8. -/
def holdsText (w : Workspace) (p : Path) : Bool :=
  (w.readText p).isOk

/-- Why the document at a path cannot be read, if it cannot. -/
def flawAt (w : Workspace) (p : Path) : Option Failure :=
  match (w.readDocument p).result with
  | .error failure => some failure
  | .ok _ => none

theorem endsIn_readDocument (w : Workspace) (p : Path) :
    EndsIn (w.readDocument p) (w.flawAt p) := by
  cases h : (w.readDocument p).result with
  | error failure =>
    rw [flawAt, h]
    exact h
  | ok document =>
    rw [flawAt, h]
    exact ⟨document, h⟩

/-- A file can be read if it is UTF-8. -/
theorem flawAt_of_file {loc : Location} {content : ByteArray}
    (h : w.lookup p = .ok (loc, .file content)) :
    w.flawAt p = if w.holdsText p then none else some (.notUtf8 p) := by
  have found : w.pathExists p = true := by rw [pathExists, h]; rfl
  have bytes : w.readBytes p = .ok content := by rw [readBytes, h]; rfl
  unfold flawAt readDocument holdsText
  rw [result_bind_of_ok rfl, found]
  -- The same bytes decide whether there is a text and whether a document is read.
  cases decoded : String.fromUTF8? content with
  | none =>
    have text : w.readText p = .error .malformed := by
      rw [readText, bytes]
      simp [bind, Except.bind, decoded]
    rw [text]
    rfl
  | some s =>
    have text : w.readText p = .ok s := by
      rw [readText, bytes]
      simp [bind, Except.bind, decoded]
    rw [text]
    rfl

/-- What cannot be reached counts as missing. -/
theorem flawAt_of_long (h : w.lookup p = .error .nameTooLong) :
    w.flawAt p = some (.notFound p) ∧ w.holdsText p = false := by
  have absent : w.pathExists p = false := by rw [pathExists, h]; rfl
  have text : w.readText p = .error .nameTooLong := by rw [readText, readBytes, h]; rfl
  refine ⟨?_, by rw [holdsText, text]; rfl⟩
  unfold flawAt readDocument
  rw [result_bind_of_ok rfl, absent]
  rfl

end Workspace

namespace Compiler

variable {c : Compiler} {w : Workspace}

/-- The documents of a category that a compilation reads, given its configuration. -/
def filesOf (c : Compiler) (w : Workspace) (configuration : Path) (category : Category) :
    List DocumentFile :=
  ((c.scanner.accepted w).filter fun file => !file.path.sameAs configuration).filter fun file =>
    category.holds file.relative

theorem mem_flatMap_filesOf {configuration : Path} {file : DocumentFile} :
    file ∈ Category.all.flatMap (c.filesOf w configuration) ↔
      file ∈ c.scanner.accepted w ∧ file.path.sameAs configuration = false ∧
        ∃ category : Category, category.holds file.relative = true := by
  simp only [List.mem_flatMap, filesOf, List.mem_filter, Bool.not_eq_true']
  constructor
  · rintro ⟨category, _, ⟨listed, other⟩, held⟩
    exact ⟨listed, other, category, held⟩
  · rintro ⟨listed, other, category, held⟩
    exact ⟨category, by cases category <;> decide, ⟨listed, other⟩, held⟩

theorem endsIn_addFile (category : Category) (kept : List NamedDocument) (file : DocumentFile) :
    EndsIn (c.addFile w category kept file) (w.flawAt file.path) :=
  endsIn_bind_of_forall (w.endsIn_readDocument file.path) fun _ => ⟨_, rfl⟩

theorem endsIn_renderPrompt (standard : c.templates = Prompt.builtin) (category : Category)
    (language : String) (document : Document) :
    EndsIn (c.renderPrompt category language document) none := by
  unfold renderPrompt
  rw [standard]
  simp only [Prompt.render_builtin_eq]
  exact ⟨_, rfl⟩

/-- A category fails for the first of its files that cannot be read. -/
theorem endsIn_compileCategory (standard : c.templates = Prompt.builtin) (language : String)
    (files : List DocumentFile) (category : Category) :
    EndsIn (c.compileCategory w language files category)
      ((files.filter fun file => category.holds file.relative).findSome? fun file =>
        w.flawAt file.path) := by
  -- With the built-in templates rendering has no flaw, so only reading counts.
  have rendered (documents : List NamedDocument) :
      EndsIn (documents.mapM fun d => c.renderPrompt category language d.document) none := by
    have ends := endsIn_mapM (fun d : NamedDocument =>
      endsIn_renderPrompt standard category language d.document) documents
    rwa [List.findSome?_eq_none_iff.mpr fun _ _ => rfl] at ends
  refine endsIn_bind_of_forall (endsIn_foldlM (endsIn_addFile category) _ []) fun documents => ?_
  exact endsIn_bind_of_forall (rendered documents) fun prompts => ⟨_, rfl⟩

theorem endsIn_languageFrom (configuration : Path) :
    EndsIn (c.languageFrom w configuration) (w.flawAt configuration) := by
  refine endsIn_bind_of_forall (w.endsIn_readDocument configuration) fun document => ?_
  have chosen (choice : LanguageChoice) : EndsIn choice.resolve none := by
    rw [LanguageChoice.resolve]
    split <;> exact ⟨_, rfl⟩
  exact endsIn_bind_of_forall (chosen _) fun language => ⟨_, rfl⟩

/-- A configuration that is found and is UTF-8 states a language. -/
theorem exists_languageFrom {places : List Path} {configuration : Path}
    (candidates : (w.configurationCandidates c.settings.root).result = .ok places)
    (located : places.find? w.isFile = some configuration) (text : w.holdsText configuration = true) :
    (w.locateConfiguration c.settings.root).result = .ok configuration ∧
      ∃ language, (c.languageFrom w configuration).result = .ok language := by
  obtain ⟨loc, content, leads⟩ := Workspace.isFile_iff.mp (List.find?_some located)
  have ends := c.endsIn_languageFrom (w := w) configuration
  rw [Workspace.flawAt_of_file leads, text] at ends
  refine ⟨?_, ends⟩
  rw [Workspace.locateConfiguration, result_bind_of_ok candidates, located]
  rfl

/-- The first flaw that a compilation meets, given the places for the configuration. -/
def verdict (c : Compiler) (w : Workspace) (places : List Path) : Option Failure :=
  match places.find? w.isFile with
  | none => some (.noConfiguration places)
  | some configuration =>
    (w.flawAt configuration).or <| (c.scanner.obstacle w).or <|
      (Category.all.flatMap (c.filesOf w configuration)).findSome? fun file =>
        w.flawAt file.path

private theorem findSome?_flatMap {α β γ : Type} (f : β → Option γ) (g : α → List β) (l : List α) :
    (l.flatMap g).findSome? f = l.findSome? fun a => (g a).findSome? f := by
  induction l with
  | nil => rfl
  | cons a l ih =>
    rw [List.flatMap_cons, List.findSome?_append, ih, List.findSome?_cons]
    cases (g a).findSome? f <;> rfl

theorem endsIn_scan (s : Scanner) (w : Workspace) : EndsIn (s.scan w) (s.obstacle w) := by
  have ends := s.result_scan w
  cases stopped : s.obstacle w with
  | none =>
    rw [stopped] at ends
    exact ⟨_, ends⟩
  | some failure =>
    rw [stopped] at ends
    exact ends

/-- With the built-in templates a compilation ends as its first flaw says. -/
theorem endsIn_compile (standard : c.templates = Prompt.builtin) {places : List Path}
    (candidates : (w.configurationCandidates c.settings.root).result = .ok places) :
    EndsIn (c.compile w) (c.verdict w places) := by
  unfold compile compileWith verdict
  cases located : places.find? w.isFile with
  | none =>
    have missing : (w.locateConfiguration c.settings.root).result =
        .error (.noConfiguration places) := by
      rw [Workspace.locateConfiguration, result_bind_of_ok candidates, located]
      rfl
    exact result_bind_of_error missing _
  | some configuration =>
    have found : (w.locateConfiguration c.settings.root).result = .ok configuration := by
      rw [Workspace.locateConfiguration, result_bind_of_ok candidates, located]
      rfl
    -- From here on the flaws stand in the order of the steps.
    refine endsIn_bind_of_ok found ?_
    refine endsIn_bind (endsIn_languageFrom configuration) fun language _ => ?_
    refine endsIn_bind (endsIn_scan c.scanner w) fun files listed => ?_
    obtain ⟨-, rfl⟩ := Scanner.scan_eq_ok_iff.mp listed
    rw [findSome?_flatMap]
    exact endsIn_bind_of_forall
      (endsIn_mapM (endsIn_compileCategory standard language _) Category.all) fun _ => ⟨_, rfl⟩

theorem exists_compile_iff (standard : c.templates = Prompt.builtin) {places : List Path}
    (candidates : (w.configurationCandidates c.settings.root).result = .ok places) :
    (∃ compiled, (c.compile w).result = .ok compiled) ↔ c.verdict w places = none :=
  exists_ok_iff_of_endsIn (endsIn_compile standard candidates)

/-- How a compilation fails for a document that it cannot read. -/
def failureFor (file : DocumentFile) : Failure :=
  if pathLimit ≤ file.path.text.utf8ByteSize then .notFound file.path else .notUtf8 file.path

theorem flawAt_of_mem_accepted {file : DocumentFile}
    (root : w.isDirectory c.scanner.root = true) (h : file ∈ c.scanner.accepted w) :
    w.flawAt file.path =
      if !w.holdsText file.path then some (failureFor file) else none := by
  have leads := Scanner.lookup_of_mem_accepted root h
  rw [failureFor]
  split at leads
  next long =>
    obtain ⟨flawed, textless⟩ := Workspace.flawAt_of_long leads
    rw [flawed, textless, if_pos long]
    rfl
  next short =>
    obtain ⟨loc, content, leads⟩ := leads
    rw [Workspace.flawAt_of_file leads, if_neg short]
    cases w.holdsText file.path <;> rfl

theorem length_lt_of_holdsText {file : DocumentFile}
    (root : w.isDirectory c.scanner.root = true) (h : file ∈ c.scanner.accepted w)
    (text : w.holdsText file.path = true) : file.path.text.utf8ByteSize < pathLimit := by
  have leads := Scanner.lookup_of_mem_accepted root h
  split at leads
  next long =>
    rw [(Workspace.flawAt_of_long leads).2] at text
    cases text
  next short => omega

private theorem findSome?_eq_map_find? {α β : Type} {f : α → Option β} {p : α → Bool} {g : α → β}
    {l : List α} (h : ∀ a ∈ l, f a = if p a then some (g a) else none) :
    l.findSome? f = (l.find? p).map g := by
  induction l with
  | nil => rfl
  | cons a l ih =>
    rw [List.findSome?_cons, List.find?_cons, h a (by simp),
      ih fun other listed => h other (by simp [listed])]
    cases p a <;> rfl

/-- The first flaw once a configuration is found. -/
theorem verdict_of_found {places : List Path} {configuration : Path}
    (located : places.find? w.isFile = some configuration) :
    c.verdict w places =
      if !w.holdsText configuration then some (.notUtf8 configuration)
      else (c.scanner.obstacle w).or
        (((Category.all.flatMap (c.filesOf w configuration)).find? fun file =>
          !w.holdsText file.path).map failureFor) := by
  obtain ⟨loc, content, leads⟩ := Workspace.isFile_iff.mp (List.find?_some located)
  rw [verdict, located]
  simp only [Workspace.flawAt_of_file leads]
  cases w.holdsText configuration with
  | false => rfl
  | true =>
    cases stopped : c.scanner.obstacle w with
    | some failure => rfl
    | none =>
      have directory := (Scanner.obstacle_eq_none_iff.mp stopped).1
      -- Every file that is selected was found beneath the root.
      have flaws : ∀ file ∈ Category.all.flatMap (c.filesOf w configuration),
          w.flawAt file.path = if !w.holdsText file.path then some (failureFor file) else none :=
        fun file listed =>
          flawAt_of_mem_accepted directory (mem_flatMap_filesOf.mp listed).1
      rw [findSome?_eq_map_find? flaws]
      rfl

theorem verdict_eq_none_iff {places : List Path} :
    c.verdict w places = none ↔
      ∃ configuration, places.find? w.isFile = some configuration ∧
        w.holdsText configuration = true ∧ w.isDirectory c.scanner.root = true ∧
        c.scanner.Walks w ∧
        ∀ file ∈ c.scanner.accepted w, file.path.sameAs configuration = false →
          (∃ category : Category, category.holds file.relative = true) →
          file.path.text.utf8ByteSize < pathLimit ∧ w.holdsText file.path = true := by
  constructor
  · intro sound
    cases located : places.find? w.isFile with
    | none =>
      rw [verdict, located] at sound
      cases sound
    | some configuration =>
      rw [verdict_of_found located] at sound
      cases text : w.holdsText configuration with
      | false => simp [text] at sound
      | true =>
        simp only [text, Bool.not_true, Bool.false_eq_true, if_false, Option.or_eq_none_iff,
          Option.map_eq_none_iff, List.find?_eq_none, Bool.not_eq_true', Bool.not_eq_false] at sound
        obtain ⟨stopped, sound⟩ := sound
        obtain ⟨directory, walks⟩ := Scanner.obstacle_eq_none_iff.mp stopped
        refine ⟨configuration, rfl, text, directory, walks, fun file listed other held => ?_⟩
        -- What can be read has a path that is short enough.
        have read := sound file (mem_flatMap_filesOf.mpr ⟨listed, other, held⟩)
        exact ⟨length_lt_of_holdsText directory listed read, read⟩
  · rintro ⟨configuration, located, text, directory, walks, sound⟩
    have none : (Category.all.flatMap (c.filesOf w configuration)).find?
        (fun file => !w.holdsText file.path) = none := by
      rw [List.find?_eq_none]
      intro file selected
      obtain ⟨listed, other, held⟩ := mem_flatMap_filesOf.mp selected
      rw [(sound file listed other held).2]
      exact Bool.false_ne_true
    rw [verdict_of_found located, text, none, Scanner.obstacle_eq_none_iff.mpr ⟨directory, walks⟩]
    rfl

/-- A compilation that succeeds has walked through all directories beneath the root. -/
theorem walks_of_compile {compiled : String × Prompts} (succeeds : (c.compile w).result = .ok compiled) :
    c.scanner.Walks w := by
  unfold compile compileWith at succeeds
  obtain ⟨configuration, -, succeeds⟩ := bind_eq_ok_iff.mp succeeds
  obtain ⟨language, -, succeeds⟩ := bind_eq_ok_iff.mp succeeds
  obtain ⟨files, found, -⟩ := bind_eq_ok_iff.mp succeeds
  exact (Scanner.scan_eq_ok_iff.mp found).1.2

/-- No prompt is made if a document that is selected has too long a path. -/
theorem not_exists_compile_of_long (standard : c.templates = Prompt.builtin) {places : List Path}
    {configuration : Path}
    (candidates : (w.configurationCandidates c.settings.root).result = .ok places)
    (located : places.find? w.isFile = some configuration)
    (long : c.scanner.Walks w → ∃ file ∈ c.scanner.accepted w,
      file.path.sameAs configuration = false ∧
        (∃ category : Category, category.holds file.relative = true) ∧
        pathLimit ≤ file.path.text.utf8ByteSize) :
    ¬ ∃ compiled, (c.compile w).result = .ok compiled := by
  rw [exists_compile_iff standard candidates, verdict_eq_none_iff]
  rintro ⟨configuration', located', -, -, walks, sound⟩
  obtain rfl : configuration = configuration' := Option.some.inj (located.symm.trans located')
  obtain ⟨file, accepted, other, held, size⟩ := long walks
  have short := (sound file accepted other held).1
  omega

/-- All that it takes to make a compiler ready. -/
theorem of_prepare_eq_ok {settings : Settings} (prepared : (prepare w settings).result = .ok c) :
    settings.validate w = .ok () ∧ Scanner.ofSettings w settings = .ok c.scanner ∧
      (Prompt.loadTemplates w settings).result = .ok c.templates ∧ c.settings = settings := by
  unfold prepare at prepared
  obtain ⟨_, valid, prepared⟩ := bind_eq_ok_iff.mp prepared
  obtain ⟨scanner, scanned, prepared⟩ := bind_eq_ok_iff.mp prepared
  obtain ⟨templates, loaded, prepared⟩ := bind_eq_ok_iff.mp prepared
  obtain rfl := Except.ok.inj prepared
  exact ⟨valid, scanned, loaded, rfl⟩

/-- The settings of a compiler made ready name a root. -/
theorem root_ne_of_prepare {settings : Settings}
    (prepared : (prepare w settings).result = .ok c) : c.settings.root.text ≠ "" := by
  obtain ⟨valid, -, -, rfl⟩ := of_prepare_eq_ok prepared
  exact (Settings.validate_eq_ok_iff.mp valid).root_ne

theorem configurationCandidates_of_ne (w : Workspace) {root : Path} (h : root.text ≠ "") :
    ∃ places, (w.configurationCandidates root).result = .ok places := by
  obtain ⟨whole, absolute⟩ := w.exists_absolute h
  refine ⟨configurationPlaces whole, ?_⟩
  rw [Workspace.configurationCandidates, absolute]
  rfl

end Compiler

/-! ### Settings for a project -/

/-- The settings for the project at `root`, with all else left as it is. -/
def settingsAt (root : Path) : Settings := { root }

theorem templates_settingsAt (root : Path) : (settingsAt root).templates = none := rfl

theorem templates_of_prepare {w : Workspace} {settings : Settings} {c : Compiler}
    (prepared : (Compiler.prepare w settings).result = .ok c) (plain : settings.templates = none) :
    c.templates = Prompt.builtin := by
  obtain ⟨-, -, loaded, -⟩ := Compiler.of_prepare_eq_ok prepared
  rw [Prompt.loadTemplates, plain] at loaded
  exact (Except.ok.inj loaded).symm

/-- Whether nothing stands against a compilation. The order of the files does not matter for it. -/
def Compiler.isSound (c : Compiler) (w : Workspace) : Bool :=
  match (w.configurationCandidates c.settings.root).result with
  | .error _ => false
  | .ok places => match places.find? w.isFile with
    | none => false
    | some configuration =>
      w.holdsText configuration && w.isDirectory c.scanner.root && decide (c.scanner.Walks w) &&
        ((w.listing c.scanner.root).filter (c.scanner.accepts w)).all fun found =>
          let file := c.scanner.documentAt found
          decide (file.path.text.utf8ByteSize < pathLimit) && w.holdsText file.path

theorem Compiler.verdict_of_isSound {c : Compiler} {w : Workspace} (h : c.isSound w = true)
    {places : List Path}
    (candidates : (w.configurationCandidates c.settings.root).result = .ok places) :
    c.verdict w places = none := by
  rw [isSound, candidates] at h
  dsimp only at h
  rw [verdict_eq_none_iff]
  cases located : places.find? w.isFile with
  | none => simp [located] at h
  | some configuration =>
    simp only [located, Bool.and_eq_true, List.all_eq_true, List.mem_filter, decide_eq_true_eq] at h
    obtain ⟨⟨⟨text, directory⟩, walks⟩, files⟩ := h
    refine ⟨configuration, rfl, text, directory, walks, fun file listed _ _ => ?_⟩
    obtain ⟨found, among, accepted, rfl⟩ := Scanner.mem_accepted.mp listed
    exact files found ⟨among, accepted⟩

theorem Compiler.exists_compile_of_isSound {c : Compiler} {w : Workspace}
    (standard : c.templates = Prompt.builtin) {places : List Path}
    (candidates : (w.configurationCandidates c.settings.root).result = .ok places)
    (sound : c.isSound w = true) : ∃ compiled, (c.compile w).result = .ok compiled :=
  (exists_compile_iff standard candidates).mpr (verdict_of_isSound sound candidates)

end SpecPrompt
