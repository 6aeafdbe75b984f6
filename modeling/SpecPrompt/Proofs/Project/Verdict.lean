import SpecPrompt.Proofs.Files.Detours
import SpecPrompt.Proofs.Project.Flaws

/-!
# When a project compiles

Whether a compilation with the built-in templates succeeds is a matter of what is found at the places
for the configuration, at the root and beneath it. If it fails, the failure names the first of these
that is flawed.

How a root is spelled counts as well: beneath one that is spelled long, a path can be too long for the
system although each of its names is short.

## Main result

`compile_verdict`: whether a compilation succeeds, and how it fails otherwise.
-/

namespace SpecPrompt

open Outcome

/-! ### A project with two tests -/

/-- A project at `/p` with an empty configuration and two empty tests. -/
def twoTests : Workspace :=
  let tree := (FileTree.empty.place ["p"] .directory).place ["p", "config.lnegc"] (.file .empty)
  let tree := tree.place ["p", "tests"] .directory
  let tree := tree.place ["p", "tests", "x.lnegc"] (.file .empty)
  ⟨tree.place ["p", "tests", "y.lnegc"] (.file .empty), []⟩

/-- A project at `/p` with an empty configuration and two empty folders. -/
def twoFolders : Workspace :=
  let tree := (FileTree.empty.place ["p"] .directory).place ["p", "config.lnegc"] (.file .empty)
  let tree := tree.place ["p", "componentes-a"] .directory
  ⟨tree.place ["p", "componentes-b"] .directory, []⟩

/-- A project at `/p` with an empty configuration and an empty folder for tests. -/
def noTest : Workspace :=
  let tree := (FileTree.empty.place ["p"] .directory).place ["p", "config.lnegc"] (.file .empty)
  ⟨tree.place ["p", "tests"] .directory, []⟩

theorem exists_prepared_twoTests :
    ∃ c, (Compiler.prepare twoTests (settingsAt ⟨"/p"⟩)).result = .ok c ∧
      c.isSound twoTests = true :=
  exists_ok_of_decide (by decide +kernel)

/-! ### A root spelled long -/

/-- The root of a project at `/p`, spelled as long as the configuration's path allows. -/
@[irreducible] def longRoot : Path := ⟨detour "p" 816⟩

private theorem isName_p : IsName "p" := by decide

theorem size_longRoot : longRoot.text.utf8ByteSize = 4082 := by
  unfold longRoot
  exact utf8ByteSize_detour "p" 816

theorem absolute_longRoot (w : Workspace) : w.absolute longRoot = .ok longRoot := by
  unfold longRoot
  exact absolute_detour _ isName_p 816

theorem join_longRoot {names : List String} (h : ∀ name ∈ names, IsName name) :
    longRoot.join ⟨"/".intercalate names⟩ = ⟨longRoot.text ++ "/" ++ "/".intercalate names⟩ := by
  unfold longRoot
  exact join_detour isName_p 816 h

private theorem exists_glob :
    ∃ glob, Scanner.documentGlob "lnegc" = .ok glob ∧
      ∀ relative ∈ ["tests/x.lnegc", "documentacao-x/x.lnegc"], glob.isMatch relative = true :=
  exists_ok_of_decide (by decide +kernel)

/-- The file's last component is its name, and the configuration's is another. -/
private theorem not_sameAs_longRoot :
    (longRoot.join ⟨"/".intercalate ["tests", "x.lnegc"]⟩).sameAs (plainConfiguration longRoot) =
      false := by
  obtain ⟨body, rooted⟩ : ∃ body, longRoot.text.toList = '/' :: body := by
    unfold longRoot
    obtain ⟨body, rooted, _⟩ := exists_toList_detour isName_p 816
    exact ⟨body, rooted⟩
  have file : (longRoot.join ⟨"/".intercalate ["tests", "x.lnegc"]⟩).components.getLast? =
      some "x.lnegc".toList := by
    have spelled : (longRoot.join ⟨"/".intercalate ["tests", "x.lnegc"]⟩).text.toList =
        '/' :: ((body ++ '/' :: "tests".toList) ++ '/' :: "x.lnegc".toList) := by
      rw [join_longRoot (by decide)]
      simp [rooted]
    exact getLast_components spelled (by decide) (by decide)
  have configuration : (plainConfiguration longRoot).components.getLast? =
      some "config.lnegc".toList := by
    have spelled : (longRoot.join ⟨"config.lnegc"⟩).text.toList =
        '/' :: (body ++ '/' :: "config.lnegc".toList) := by
      rw [← String.intercalate_singleton (s := "/") (t := "config.lnegc"),
        join_longRoot (by decide)]
      simp [rooted]
    exact getLast_components spelled (by decide) (by decide)
  have apart : (longRoot.join ⟨"/".intercalate ["tests", "x.lnegc"]⟩).components ≠
      (plainConfiguration longRoot).components := by
    intro same
    rw [same, configuration] at file
    exact absurd file (by decide)
  rw [Path.sameAs, decide_eq_false apart, Bool.and_false]

/-- Beneath the root spelled long a directory is out of reach if its names are long enough. -/
theorem outOfReach_longRoot {w : Workspace} {s : Scanner} (rooted : s.root = longRoot)
    {names : List String} {node : Node} (beneath : (names, node) ∈ w.tree.beneath ["p"]) :
    s.outOfReach ⟨names, node⟩ =
      decide (node = .directory ∧ 13 ≤ ("/".intercalate names).utf8ByteSize) := by
  obtain ⟨more, found⟩ := FileTree.mem_beneath beneath
  have valid : ∀ name ∈ names, IsName name := fun name listed =>
    w.tree.named _ _ found name (List.mem_append_right _ listed)
  have slash : "/".utf8ByteSize = 1 := rfl
  rw [Scanner.outOfReach, Scanner.pathOf_eq more, rooted, join_longRoot valid]
  simp only [String.utf8ByteSize_append, size_longRoot, slash, pathLimit]
  exact decide_eq_decide.mpr (and_congr_right fun _ => by omega)

/-- A compiler is made ready for the project at the root spelled long, and its configuration is found. -/
structure ReadyAtLongRoot (w : Workspace) (output : Path) (c : Compiler) : Prop where
  prepared : (Compiler.prepare w { settingsAt longRoot with output }).result = .ok c
  standard : c.templates = Prompt.builtin
  root : c.settings.root = longRoot
  rooted : c.scanner.root = longRoot
  leads : w.lookup c.scanner.root = .ok (["p"], .directory)
  located : (configurationPlaces longRoot).find? w.isFile = some (plainConfiguration longRoot)
  text : w.holdsText (plainConfiguration longRoot) = true
  passes : ∀ relative ∈ ["tests/x.lnegc", "documentacao-x/x.lnegc"],
    c.scanner.passes relative = true

theorem ReadyAtLongRoot.candidates {w : Workspace} {output : Path} {c : Compiler}
    (ready : ReadyAtLongRoot w output c) (s : Workspace) :
    (s.configurationCandidates c.settings.root).result = .ok (configurationPlaces longRoot) := by
  rw [ready.root, Workspace.configurationCandidates, absolute_longRoot]
  rfl

section

variable {w : Workspace} (directory : w.tree.nodes.get? ["p"] = some .directory)
include directory

theorem lookup_longRoot : w.lookup longRoot = .ok (["p"], .directory) := by
  unfold longRoot
  refine lookup_detour isName_p directory ?_
  rw [utf8ByteSize_detour]
  decide

/-- What lies beneath the root is reached if its path is short enough. -/
private theorem lookup_below {names : List String}
    (found : (names, Node.file .empty) ∈ w.tree.beneath ["p"])
    (h : ∀ name ∈ names, IsName name) :
    w.lookup (longRoot.join ⟨"/".intercalate names⟩) =
      if pathLimit ≤ 4083 + ("/".intercalate names).utf8ByteSize then .error .nameTooLong
      else .ok (["p"] ++ names, .file .empty) := by
  have slash : "/".utf8ByteSize = 1 := rfl
  rw [Workspace.lookup_join found (fun _ => nofun) (lookup_longRoot directory), join_longRoot h]
  simp only [String.utf8ByteSize_append, size_longRoot, slash]

/-- A compiler is made ready for the project at the root spelled long, wherever its prompts go. -/
theorem exists_prepared_longRoot (output : Path) :
    ∃ c, (Compiler.prepare w { settingsAt longRoot with output }).result = .ok c ∧
      c.settings.root = longRoot ∧ c.scanner.root = longRoot ∧
      ∀ relative ∈ ["tests/x.lnegc", "documentacao-x/x.lnegc"], c.scanner.passes relative = true := by
  have valid : ({ settingsAt longRoot with output } : Settings).validate w = .ok () := by
    have extension : (settingsAt longRoot).extension.isEmpty = false ∧
        (settingsAt longRoot).extension.toList.head? ≠ some '.' := by decide
    have language : Text.isBlank (settingsAt longRoot).defaultLanguage = false := by decide
    refine Settings.validate_eq_ok_iff.mpr ⟨?_, extension, language, nofun, nofun, nofun⟩
    exact Scanner.isDirectory_of_lookup (lookup_longRoot directory)
  obtain ⟨glob, read, matching⟩ := exists_glob
  have scanner : Scanner.ofSettings w { settingsAt longRoot with output } =
      .ok ⟨longRoot, glob, []⟩ := by
    unfold Scanner.ofSettings settingsAt
    dsimp only
    rw [absolute_longRoot, read]
    rfl
  -- The compiler is written down, since evaluating it would unfold the root.
  refine ⟨⟨{ settingsAt longRoot with output }, ⟨longRoot, glob, []⟩, Prompt.builtin⟩, ?_, rfl, rfl,
    fun relative listed => ?_⟩
  · unfold Compiler.prepare
    rw [valid, scanner]
    rfl
  · rw [Scanner.passes, matching relative listed]
    rfl

theorem configuration_longRoot
    (found : (["config.lnegc"], Node.file .empty) ∈ w.tree.beneath ["p"]) :
    (configurationPlaces longRoot).find? w.isFile = some (plainConfiguration longRoot) ∧
      w.holdsText (plainConfiguration longRoot) = true := by
  have size : "config.lnegc".utf8ByteSize = 12 := by decide
  have leads := lookup_below directory found (by decide)
  rw [String.intercalate_singleton, size, if_neg (by decide)] at leads
  have isFile : w.isFile (plainConfiguration longRoot) = true := by
    change w.isFile (longRoot.join ⟨"config.lnegc"⟩) = true
    rw [Workspace.isFile, leads]
  constructor
  · rw [configurationPlaces, List.cons_append, List.find?_cons, isFile]
  · change w.holdsText (longRoot.join ⟨"config.lnegc"⟩) = true
    rw [Workspace.holdsText, Workspace.readText, Workspace.readBytes, leads]
    decide

theorem exists_readyAtLongRoot
    (configured : (["config.lnegc"], Node.file .empty) ∈ w.tree.beneath ["p"]) (output : Path) :
    ∃ c, ReadyAtLongRoot w output c := by
  obtain ⟨c, prepared, root, rooted, passes⟩ := exists_prepared_longRoot directory output
  obtain ⟨located, text⟩ := configuration_longRoot directory configured
  refine ⟨c, prepared, templates_of_prepare prepared rfl, root, rooted, ?_, located, text, passes⟩
  rw [rooted]
  exact lookup_longRoot directory

theorem walks_longRoot {s : Scanner} (rooted : s.root = longRoot)
    (short : ∀ found ∈ w.tree.beneath ["p"], found.2 = .directory →
      ("/".intercalate found.1).utf8ByteSize ≤ 12) : s.Walks w := by
  rintro ⟨names, node⟩ listed
  rw [rooted] at listed
  rcases Scanner.mem_listing (lookup_longRoot directory) listed with beneath | root
  · rw [outOfReach_longRoot rooted beneath]
    refine decide_eq_false ?_
    rintro ⟨inside, long⟩
    exact absurd (long.trans (short _ beneath inside)) (by decide)
  · rw [root]
    rfl

/-- A test is selected whose path is one byte too long. -/
theorem exists_selected_longRoot {s : Scanner} (rooted : s.root = longRoot)
    (passes : s.passes "tests/x.lnegc" = true)
    (beneath : (["tests", "x.lnegc"], Node.file .empty) ∈ w.tree.beneath ["p"]) :
    ∃ file ∈ s.accepted w, file.path.sameAs (plainConfiguration longRoot) = false ∧
      (∃ category : Category, category.holds file.relative = true) ∧
      pathLimit ≤ file.path.text.utf8ByteSize := by
  have relative : "/".intercalate ["tests", "x.lnegc"] = "tests/x.lnegc" := by decide
  have path : s.pathOf ⟨["tests", "x.lnegc"], .file .empty⟩ =
      longRoot.join ⟨"/".intercalate ["tests", "x.lnegc"]⟩ := by
    rw [← rooted]
    rfl
  refine ⟨s.documentAt ⟨["tests", "x.lnegc"], .file .empty⟩, ?_, ?_, ?_, ?_⟩
  · refine Scanner.mem_accepted.mpr ⟨_, ?_, ?_, rfl⟩
    · rw [rooted]
      exact Scanner.mem_listing_of_mem_beneath (lookup_longRoot directory) beneath
    · rw [Scanner.accepts, relative, passes]
      rfl
  · rw [Scanner.documentAt, path]
    exact not_sameAs_longRoot
  · refine ⟨.test, ?_⟩
    rw [Scanner.documentAt, relative]
    change Category.test.holds (Text.replaceChar '\\' '/' "tests/x.lnegc") = true
    decide
  -- The root, a slash and the names have 4096 bytes together.
  · have slash : "/".utf8ByteSize = 1 := rfl
    have size : "tests/x.lnegc".utf8ByteSize = 13 := by decide
    rw [Scanner.documentAt, path, join_longRoot (by decide)]
    simp only [String.utf8ByteSize_append, size_longRoot, slash, relative, size]
    exact le_refl _

end

/-- All that is accepted beneath the root is UTF-8, if all files there are. -/
private theorem decodes_of_beneath {w : Workspace} {s : Scanner}
    (leads : w.lookup s.root = .ok (["p"], .directory))
    (contents : ∀ found ∈ w.tree.beneath ["p"], (match found.2 with
      | .file content => (String.fromUTF8? content).isSome
      | .directory => true
      | .link _ => false) = true) :
    ∀ found ∈ w.listing s.root, s.accepts w found = true →
      ∃ content, found.node = .file content ∧ (String.fromUTF8? content).isSome = true := by
  intro found listed accepted
  have decodes := contents _ (Scanner.mem_beneath_of_accepts leads listed accepted)
  have finds : s.findsFile w found = true := (Bool.and_eq_true_iff.mp accepted).1
  obtain ⟨names, node⟩ := found
  cases node with
  | file content => exact ⟨content, rfl, decodes⟩
  | directory => cases finds
  | link target => cases decodes

theorem directory_noTest : noTest.tree.nodes.get? ["p"] = some .directory := by
  decide

theorem relative_of_mem_listing_noTest {s : Scanner}
    (leads : noTest.lookup s.root = .ok (["p"], .directory)) {found : Found}
    (listed : found ∈ noTest.listing s.root) (accepted : s.accepts noTest found = true) :
    (s.documentAt found).relative = "config.lnegc" := by
  have entries : ∀ found ∈ noTest.tree.beneath ["p"],
      found.2 = .directory ∨ found.1 = ["config.lnegc"] := by decide
  have finds : s.findsFile noTest found = true := (Bool.and_eq_true_iff.mp accepted).1
  obtain ⟨names, node⟩ := found
  rcases entries _ (Scanner.mem_beneath_of_accepts leads listed accepted) with directory | named
  · obtain rfl : node = .directory := directory
    cases finds
  · obtain rfl : names = ["config.lnegc"] := named
    change Text.replaceChar '\\' '/' ("/".intercalate ["config.lnegc"]) = "config.lnegc"
    decide

/-- Without tests there is nothing to read but the configuration, however the root is spelled. -/
theorem ReadyAtLongRoot.exists_compile_noTest {output : Path} {c : Compiler}
    (ready : ReadyAtLongRoot noTest output c) :
    ∃ compiled, (c.compile noTest).result = .ok compiled := by
  rw [Compiler.exists_compile_iff ready.standard (ready.candidates noTest),
    Compiler.verdict_eq_none_iff]
  refine ⟨_, ready.located, ready.text, Scanner.isDirectory_of_lookup ready.leads,
    walks_longRoot directory_noTest ready.rooted (by decide), ?_⟩
  rintro file listed - ⟨category, held⟩
  obtain ⟨found, among, accepted, rfl⟩ := Scanner.mem_accepted.mp listed
  have none : category.holds "config.lnegc" = false := by cases category <;> decide
  rw [relative_of_mem_listing_noTest ready.leads among accepted, none] at held
  cases held

private theorem directory_twoTests : twoTests.tree.nodes.get? ["p"] = some .directory := by
  decide

private theorem directory_twoFolders : twoFolders.tree.nodes.get? ["p"] = some .directory := by
  decide

/-! ### Compiling -/

/-- Whether a compilation with the built-in templates succeeds, and how it fails otherwise. -/
theorem compile_verdict {w₀ : Workspace} {settings : Settings} {c : Compiler}
    (prepared : (Compiler.prepare w₀ settings).result = .ok c)
    (standard : c.templates = Prompt.builtin) (w : Workspace) :
    ∃ places, (w.configurationCandidates c.settings.root).result = .ok places ∧
      ((∃ compiled, (c.compile w).result = .ok compiled) ↔
        ∃ configuration, places.find? w.isFile = some configuration ∧
          w.holdsText configuration = true ∧ w.isDirectory c.scanner.root = true ∧
          c.scanner.Walks w ∧
          ∀ file ∈ c.scanner.accepted w, file.path.sameAs configuration = false →
            (∃ category : Category, category.holds file.relative = true) →
            file.path.text.utf8ByteSize < pathLimit ∧ w.holdsText file.path = true) ∧
      (places.find? w.isFile = none →
        (c.compile w).result = .error (.noConfiguration places)) ∧
      ∀ configuration, places.find? w.isFile = some configuration →
        (w.holdsText configuration = false →
          (c.compile w).result = .error (.notUtf8 configuration)) ∧
        (w.holdsText configuration = true → w.isDirectory c.scanner.root = false →
          (c.compile w).result = .error (.notFound c.scanner.root)) ∧
        (w.holdsText configuration = true → w.isDirectory c.scanner.root = true →
          ∀ found, (w.listing c.scanner.root).find? c.scanner.outOfReach = some found →
            (c.compile w).result =
              .error (Scanner.walkFailure (c.scanner.pathOf found) .nameTooLong)) ∧
        (w.holdsText configuration = true → w.isDirectory c.scanner.root = true →
          c.scanner.Walks w → ∀ file,
            (Category.all.flatMap (c.filesOf w configuration)).find?
                (fun file => !w.holdsText file.path) = some file →
              (c.compile w).result = .error
                (if pathLimit ≤ file.path.text.utf8ByteSize then .notFound file.path
                  else .notUtf8 file.path)) := by
  obtain ⟨places, candidates⟩ :=
    Compiler.configurationCandidates_of_ne w (Compiler.root_ne_of_prepare prepared)
  have ends := Compiler.endsIn_compile standard candidates
  refine ⟨places, candidates, ?_, ?_, fun configuration located => ⟨?_, ?_, ?_, ?_⟩⟩
  -- Each part reads off the first flaw under its own conditions.
  · rw [exists_ok_iff_of_endsIn ends]
    exact Compiler.verdict_eq_none_iff
  · intro missing
    rw [Compiler.verdict, missing] at ends
    exact ends
  · intro undecodable
    rw [Compiler.verdict_of_found located, undecodable] at ends
    exact ends
  · intro text absent
    have stopped : c.scanner.obstacle w = some (.notFound c.scanner.root) := by
      rw [Scanner.obstacle, absent]
      rfl
    rw [Compiler.verdict_of_found located, text, stopped] at ends
    exact ends
  · intro text directory found first
    have stopped : c.scanner.obstacle w =
        some (Scanner.walkFailure (c.scanner.pathOf found) .nameTooLong) := by
      rw [Scanner.obstacle, if_pos directory, first]
      rfl
    rw [Compiler.verdict_of_found located, text, stopped] at ends
    exact ends
  · intro text directory walks file first
    rw [Compiler.verdict_of_found located, text,
      Scanner.obstacle_eq_none_iff.mpr ⟨directory, walks⟩, first] at ends
    exact ends

theorem compile_twoTests :
    ∃ c compiled, (Compiler.prepare twoTests (settingsAt ⟨"/p"⟩)).result = .ok c ∧
      c.templates = Prompt.builtin ∧ (c.compile twoTests).result = .ok compiled := by
  obtain ⟨c, prepared, sound⟩ := exists_prepared_twoTests
  have standard := templates_of_prepare prepared (templates_settingsAt _)
  obtain ⟨places, candidates, succeeds, _⟩ := compile_verdict prepared standard twoTests
  obtain ⟨compiled, ends⟩ := succeeds.mpr
    (Compiler.verdict_eq_none_iff.mp (Compiler.verdict_of_isSound sound candidates))
  exact ⟨c, compiled, prepared, standard, ends⟩

/-- The root of a project, spelled long, is a directory, its configuration is found, and all files
that are accepted beneath it are UTF-8. Still no prompt is made. -/
structure FailsForLength (w : Workspace) (c : Compiler) (places : List Path) (configuration : Path) :
    Prop where
  prepared : (Compiler.prepare w (settingsAt longRoot)).result = .ok c
  standard : c.templates = Prompt.builtin
  candidates : (w.configurationCandidates c.settings.root).result = .ok places
  located : places.find? w.isFile = some configuration
  text : w.holdsText configuration = true
  directory : w.isDirectory c.scanner.root = true
  decodes : ∀ found ∈ w.listing c.scanner.root, c.scanner.accepts w found = true →
    ∃ content, found.node = .file content ∧ (String.fromUTF8? content).isSome = true
  fails : ¬ ∃ compiled, (c.compile w).result = .ok compiled

private theorem exists_failsForLength {w : Workspace}
    (directory : w.tree.nodes.get? ["p"] = some .directory)
    (configured : (["config.lnegc"], Node.file .empty) ∈ w.tree.beneath ["p"])
    (contents : ∀ found ∈ w.tree.beneath ["p"], (match found.2 with
      | .file content => (String.fromUTF8? content).isSome
      | .directory => true
      | .link _ => false) = true)
    (long : ∀ s : Scanner, s.root = longRoot → s.passes "tests/x.lnegc" = true → s.Walks w →
      ∃ file ∈ s.accepted w, file.path.sameAs (plainConfiguration longRoot) = false ∧
        (∃ category : Category, category.holds file.relative = true) ∧
        pathLimit ≤ file.path.text.utf8ByteSize) :
    ∃ c places configuration, FailsForLength w c places configuration := by
  obtain ⟨c, ready⟩ := exists_readyAtLongRoot directory configured (settingsAt longRoot).output
  refine ⟨c, configurationPlaces longRoot, plainConfiguration longRoot, ready.prepared,
    ready.standard, ready.candidates w, ready.located, ready.text,
    Scanner.isDirectory_of_lookup ready.leads, decodes_of_beneath ready.leads contents, ?_⟩
  exact Compiler.not_exists_compile_of_long ready.standard (ready.candidates w) ready.located
    (long c.scanner ready.rooted (ready.passes _ (by simp)))

/-- Of a project whose files are all UTF-8 no prompt is made if the path of a document is too long,
nor if that of a folder is, even an empty one. -/
theorem compile_longRoot :
    (∃ c places configuration, FailsForLength twoTests c places configuration) ∧
      ∃ c places configuration, FailsForLength twoFolders c places configuration := by
  constructor
  · refine exists_failsForLength directory_twoTests (by decide +kernel) (by decide) ?_
    intro s rooted passes _
    exact exists_selected_longRoot directory_twoTests rooted passes (by decide +kernel)
  · refine exists_failsForLength directory_twoFolders (by decide +kernel) (by decide) ?_
    intro s rooted _ walks
    have beneath : (["componentes-a"], Node.directory) ∈ twoFolders.tree.beneath ["p"] := by
      decide +kernel
    have listed : ⟨["componentes-a"], .directory⟩ ∈ twoFolders.listing s.root := by
      rw [rooted]
      exact Scanner.mem_listing_of_mem_beneath (lookup_longRoot directory_twoFolders) beneath
    have reached := walks _ listed
    rw [outOfReach_longRoot rooted beneath] at reached
    exact absurd reached (by decide)

end SpecPrompt
