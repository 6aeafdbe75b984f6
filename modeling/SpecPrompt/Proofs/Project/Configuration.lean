import SpecPrompt.Proofs.Files.Absolute
import SpecPrompt.Proofs.Project.Verdict

/-!
# The configuration is no document

The configuration is left out of a project's documents by its path, so it has to be found under the
path that a scan gives to it. That is so in the root and in its hidden folder, which are tried first.
The other places lie in the directories above the root, and these are no deeper than the root
unless its path ends in `..`: then the directories that the path names lie beneath the root.

## Main result

`location_ne_of_mem_filesOf`: no document that is read is the configuration.
-/

namespace SpecPrompt

open Outcome

/-! ### The places for the configuration -/

private theorem isStep_file : Path.IsStep "config.lnegc" := by
  constructor <;> decide

private theorem isStep_folder : Path.IsStep ".lnegc" := by
  constructor <;> decide

variable {directory : Path}

theorem spot_plainConfiguration (here : Location) :
    (plainConfiguration directory).spot here = directory.spot here ++ ["config.lnegc"] :=
  directory.spot_join isStep_file here

theorem spot_hiddenConfiguration (here : Location) :
    (hiddenConfiguration directory).spot here =
      directory.spot here ++ [".lnegc", "config.lnegc"] := by
  have folder := directory.spot_join isStep_folder here
  have file := (directory.join ⟨".lnegc"⟩).spot_join isStep_file here
  rw [folder, List.append_assoc] at file
  exact file

theorem hiddenConfiguration_eq (rooted : directory.lead = .root) :
    hiddenConfiguration directory = directory.join ⟨".lnegc/config.lnegc"⟩ := by
  have filled : directory.text ≠ "" := by
    intro empty
    have start := Path.lead_eq_root_iff.mp rooted
    rw [empty] at start
    cases start
  -- Joined in two steps or in one, the text is the same.
  have after : ∀ text, (Path.mk (text ++ ".lnegc")).join ⟨"config.lnegc"⟩ =
      ⟨text ++ ".lnegc/config.lnegc"⟩ := by
    intro text
    have whole : ".lnegc" ++ "/" ++ "config.lnegc" = ".lnegc/config.lnegc" := by decide
    have noSlash : (text ++ ".lnegc").toList.getLast? ≠ some '/' := by
      rw [String.toList_append, List.getLast?_append_of_ne_nil _ (by decide)]
      decide
    rw [Path.join_of_relative isStep_file.isAbsolute_eq (by simp), if_neg noSlash, ← whole]
    simp only [String.append_assoc]
  have relative : (Path.mk ".lnegc/config.lnegc").isAbsolute = false := by decide
  rw [hiddenConfiguration, configurationFolder, configurationName,
    Path.join_of_relative isStep_folder.isAbsolute_eq filled, Path.join_of_relative relative filled]
  split
  · exact after directory.text
  · exact after (directory.text ++ "/")

theorem exists_of_mem_configurationPlaces {root place : Path} (h : place ∈ configurationPlaces root) :
    ∃ directory, (directory = root ∨ directory ∈ root.ancestors.tail.take 2) ∧
      (place = plainConfiguration directory ∨ place = hiddenConfiguration directory) := by
  rw [configurationPlaces, List.mem_append, List.mem_flatMap] at h
  rcases h with own | ⟨above, listed, own⟩
  · exact ⟨root, .inl rfl, by simpa using own⟩
  · exact ⟨above, .inr listed, by simpa [or_comm] using own⟩

theorem getLast?_spot_of_mem_configurationPlaces {root place : Path}
    (h : place ∈ configurationPlaces root) (here : Location) :
    (place.spot here).getLast? = some "config.lnegc" := by
  obtain ⟨directory, -, rfl | rfl⟩ := exists_of_mem_configurationPlaces h
  · rw [spot_plainConfiguration, List.getLast?_concat]
  · rw [spot_hiddenConfiguration, List.getLast?_append_of_ne_nil _ (by simp)]
    rfl

theorem of_mem_configurationPlaces {root place : Path} (rooted : root.lead = .root)
    (notUp : root.components.getLast? ≠ some ['.', '.']) (h : place ∈ configurationPlaces root)
    (here : Location) :
    ∃ start, start.length ≤ (root.spot here).length ∧
      (place.spot here = start ++ ["config.lnegc"] ∨
        place.spot here = start ++ [".lnegc", "config.lnegc"]) := by
  obtain ⟨directory, near, same⟩ := exists_of_mem_configurationPlaces h
  have short : (directory.spot here).length ≤ (root.spot here).length := by
    rcases near with rfl | listed
    · exact le_refl _
    · exact Path.length_spot_of_mem_ancestors rooted notUp listed here
  refine ⟨directory.spot here, short, ?_⟩
  rcases same with rfl | rfl
  · exact .inl (spot_plainConfiguration here)
  · exact .inr (spot_hiddenConfiguration here)

/-! ### The documents of a project -/

namespace Scanner

variable {s : Scanner} {w : Workspace}

/-- Without links, every document is a regular file beneath the root. -/
theorem exists_file_of_mem_accepted (plain : w.tree.NoLinks) {file : DocumentFile}
    (h : file ∈ s.accepted w) :
    ∃ names content, names ≠ [] ∧ file.path = s.root.join ⟨"/".intercalate names⟩ ∧
      ∀ entry, w.lookup file.path = .ok entry →
        entry = (s.root.spot w.here ++ names, .file content) := by
  obtain ⟨found, listed, accepted, rfl⟩ := mem_accepted.mp h
  have finds : s.findsFile w found = true := (Bool.and_eq_true_iff.mp accepted).1
  obtain ⟨loc, directory⟩ := exists_lookup_of_mem_listing listed
  rw [Workspace.spot_of_lookup plain directory]
  have beneath := mem_beneath_of_accepts directory listed accepted
  obtain ⟨names, node⟩ := found
  obtain ⟨more, taken⟩ := FileTree.mem_beneath beneath
  cases node with
  | directory => cases finds
  | link target => cases FileTree.noLinks_iff.mp plain _ _ taken
  | file content =>
    have path_eq : s.pathOf ⟨names, .file content⟩ = s.root.join ⟨"/".intercalate names⟩ := by
      simp [pathOf, more]
    refine ⟨names, content, more, path_eq, fun entry leads => ?_⟩
    change w.lookup (s.pathOf ⟨names, .file content⟩) = _ at leads
    have noLink (target : String) : Node.file content ≠ .link target := by simp
    rw [path_eq, Workspace.lookup_join beneath noLink directory] at leads
    split at leads
    · cases leads
    · exact (Except.ok.inj leads).symm

end Scanner

namespace Compiler

variable {c : Compiler} {w : Workspace} {settings : Settings}

theorem absolute_of_prepare (prepared : (prepare w settings).result = .ok c) :
    w.absolute settings.root = .ok c.scanner.root :=
  (Scanner.ofSettings_eq_ok_iff.mp (of_prepare_eq_ok prepared).2.1).1

private theorem names_of_place_eq {root start : Location} {names : List String} (more : names ≠ [])
    (short : start.length ≤ root.length)
    (spelled : root ++ names = start ++ ["config.lnegc"] ∨
      root ++ names = start ++ [".lnegc", "config.lnegc"]) :
    names = ["config.lnegc"] ∨ names = [".lnegc", "config.lnegc"] := by
  -- `start` is no longer than `root`, so the names lie within the ending.
  have last : ∀ ending, root ++ names = start ++ ending → ∃ before, ending = before ++ names := by
    intro ending same
    rcases List.append_eq_append_iff.mp same with ⟨between, rfl, rfl⟩ | ⟨before, _, own⟩
    · have none : between = [] := by
        rw [← List.length_eq_zero_iff]
        rw [List.length_append] at short
        omega
      exact ⟨[], by simp [none]⟩
    · exact ⟨before, own⟩
  have single : ∀ before, ["config.lnegc"] = before ++ names → names = ["config.lnegc"] := by
    intro before own
    cases before with
    | nil => exact own.symm
    | cons first before =>
      have none := (List.cons.inj own).2
      exact absurd (List.append_eq_nil_iff.mp none.symm).2 more
  rcases spelled with same | same
  · obtain ⟨before, own⟩ := last _ same
    exact .inl (single before own)
  · obtain ⟨before, own⟩ := last _ same
    cases before with
    | nil => exact .inr own.symm
    | cons first before => exact .inl (single before (List.cons.inj own).2)

theorem configurationCandidates_of_prepare (prepared : (prepare w settings).result = .ok c) :
    (w.configurationCandidates c.settings.root).result =
      .ok (configurationPlaces c.scanner.root) := by
  obtain ⟨_, _, _, own⟩ := of_prepare_eq_ok prepared
  rw [Workspace.configurationCandidates, own, absolute_of_prepare prepared]
  rfl

theorem find?_of_located {places : List Path} {configuration : Path}
    (candidates : (w.configurationCandidates c.settings.root).result = .ok places)
    (located : (w.locateConfiguration c.settings.root).result = .ok configuration) :
    places.find? w.isFile = some configuration := by
  rw [Workspace.locateConfiguration, result_bind_of_ok candidates] at located
  split at located
  · cases located
  next path found =>
    obtain rfl : path = configuration := Except.ok.inj located
    exact found

theorem find?_of_locateConfiguration {configuration : Path}
    (prepared : (prepare w settings).result = .ok c)
    (located : (w.locateConfiguration c.settings.root).result = .ok configuration) :
    (configurationPlaces c.scanner.root).find? w.isFile = some configuration :=
  find?_of_located (configurationCandidates_of_prepare prepared) located

/-- No document that a compilation reads is the file of the configuration, unless the project's root
ends in a step up. -/
theorem location_ne_of_mem_filesOf (plain : w.tree.NoLinks)
    (prepared : (prepare w settings).result = .ok c)
    (notUp : c.scanner.root.components.getLast? ≠ some ['.', '.']) {configuration : Path}
    (located : (w.locateConfiguration c.settings.root).result = .ok configuration)
    {category : Category} {file : DocumentFile} (read : file ∈ c.filesOf w configuration category)
    {loc loc' : Location} {node node' : Node} (leads : w.lookup file.path = .ok (loc, node))
    (leads' : w.lookup configuration = .ok (loc', node')) : loc ≠ loc' := by
  rintro rfl
  have first := find?_of_locateConfiguration prepared located
  have rooted := Path.lead_of_absolute (absolute_of_prepare prepared)
  obtain ⟨listed, other⟩ := List.mem_filter.mp (List.mem_filter.mp read).1
  have other : file.path ≠ configuration := by
    intro same
    rw [same, Path.sameAs_self] at other
    cases other
  obtain ⟨names, content, more, path_eq, ends⟩ :=
    Scanner.exists_file_of_mem_accepted plain listed
  obtain ⟨rfl, rfl⟩ := Prod.mk.inj (ends _ leads)
  have isFile : w.isFile file.path = true := by rw [Workspace.isFile, leads]
  -- The place of the configuration ends in one or two names of its own, and the document's names are
  -- the last of these.
  obtain ⟨start, short, spelled⟩ :=
    of_mem_configurationPlaces rooted notUp (List.mem_of_find?_eq_some first) w.here
  have at_place := Workspace.spot_of_lookup plain leads'
  rw [at_place] at spelled
  rcases names_of_place_eq more short spelled with rfl | rfl
  · -- The place in the root is tried first.
    have here : plainConfiguration c.scanner.root = file.path := by
      rw [path_eq, String.intercalate_singleton]
      rfl
    rw [configurationPlaces, here, List.cons_append, List.find?_cons_of_pos isFile] at first
    exact other (Option.some.inj first)
  · have here : hiddenConfiguration c.scanner.root = file.path := by
      rw [path_eq, hiddenConfiguration_eq rooted]
      rfl
    rw [configurationPlaces, here, List.cons_append, List.find?_cons] at first
    split at first
    -- What the root itself holds comes before, but lies elsewhere.
    · rw [← Option.some.inj first, spot_plainConfiguration, List.append_cancel_left_eq] at at_place
      simp at at_place
    · rw [List.cons_append, List.find?_cons_of_pos isFile] at first
      exact other (Option.some.inj first)

end Compiler

/-! ### A root that ends in a step up -/

/-- Where the first document of a category that a compilation reads is, and where its configuration
is. -/
def locationsRead (w : Workspace) (settings : Settings) (category : Category) :
    Option (Location × Location) := do
  let c ← (Compiler.prepare w settings).result.toOption
  let configuration ← (w.locateConfiguration c.settings.root).result.toOption
  let file ← (c.filesOf w configuration category).head?
  let entry ← (w.lookup file.path).toOption
  let entry' ← (w.lookup configuration).toOption
  some (entry.1, entry'.1)

theorem eq_ok_of_toOption {ε α : Type} {x : Except ε α} {a : α} (h : x.toOption = some a) :
    x = .ok a := by
  cases x with
  | error e => cases h
  | ok b =>
    obtain rfl := Option.some.inj h
    rfl

theorem of_locationsRead {w : Workspace} {settings : Settings} {category : Category}
    {loc loc' : Location} (h : locationsRead w settings category = some (loc, loc')) :
    ∃ c configuration file node node', (Compiler.prepare w settings).result = .ok c ∧
      (w.locateConfiguration c.settings.root).result = .ok configuration ∧
      file ∈ c.filesOf w configuration category ∧ w.lookup file.path = .ok (loc, node) ∧
      w.lookup configuration = .ok (loc', node') := by
  simp only [locationsRead, Option.bind_eq_bind, Option.bind_eq_some_iff] at h
  obtain ⟨c, prepared, configuration, located, file, first, ⟨_, node⟩, leads, ⟨_, node'⟩, leads',
    same⟩ := h
  cases same
  exact ⟨c, configuration, file, node, node', eq_ok_of_toOption prepared,
    eq_ok_of_toOption located, List.mem_of_head? first, eq_ok_of_toOption leads,
    eq_ok_of_toOption leads'⟩

/-- A project with its configuration in the root and one test. -/
def oneTest : Workspace :=
  let tree := (FileTree.empty.place ["config.lnegc"] (.file .empty)).place ["p"] .directory
  let tree := tree.place ["p", "tests"] .directory
  ⟨tree.place ["p", "tests", "x.lnegc"] (.file .empty), []⟩

theorem location_ne_oneTest :
    ∃ c configuration file node node', (oneTest.tree.NoLinks ∧
        (Compiler.prepare oneTest (settingsAt ⟨"p"⟩)).result = .ok c ∧
        c.scanner.root.components.getLast? ≠ some ['.', '.'] ∧
        (oneTest.locateConfiguration c.settings.root).result = .ok configuration ∧
        file ∈ c.filesOf oneTest configuration .test ∧
        oneTest.lookup file.path = .ok (["p", "tests", "x.lnegc"], node) ∧
        oneTest.lookup configuration = .ok (["config.lnegc"], node')) ∧
      ["p", "tests", "x.lnegc"] ≠ ["config.lnegc"] := by
  have plain : oneTest.tree.NoLinks := by decide +kernel
  have evaluated : locationsRead oneTest (settingsAt ⟨"p"⟩) .test =
      some (["p", "tests", "x.lnegc"], ["config.lnegc"]) := by decide +kernel
  obtain ⟨c, configuration, file, node, node', prepared, located, read, leads, leads'⟩ :=
    of_locationsRead evaluated
  have notUp : c.scanner.root.components.getLast? ≠ some ['.', '.'] := by
    have root : (oneTest.absolute ⟨"p"⟩).toOption = some ⟨"/p"⟩ := by decide +kernel
    have absolute := Compiler.absolute_of_prepare prepared
    rw [Except.ok.inj (absolute.symm.trans (eq_ok_of_toOption root))]
    decide
  exact ⟨c, configuration, file, node, node',
    ⟨plain, prepared, notUp, located, read, leads, leads'⟩,
    Compiler.location_ne_of_mem_filesOf plain prepared notUp located read leads leads'⟩

/-- A project whose only document is its configuration, in the folder of the tests. -/
def nested : Workspace :=
  let tree := (FileTree.empty.place ["p"] .directory).place ["p", "tests"] .directory
  ⟨tree.place ["p", "tests", "config.lnegc"] (.file .empty), []⟩

/-- From a root that goes into the folder of the tests and up again, the configuration is found there
and read as a test. -/
theorem location_eq_nested :
    nested.tree.NoLinks ∧
      ∃ c configuration file node node',
        (Compiler.prepare nested (settingsAt ⟨"p/tests/.."⟩)).result = .ok c ∧
        (nested.locateConfiguration c.settings.root).result = .ok configuration ∧
        file ∈ c.filesOf nested configuration .test ∧
        nested.lookup file.path = .ok (["p", "tests", "config.lnegc"], node) ∧
        nested.lookup configuration = .ok (["p", "tests", "config.lnegc"], node') := by
  have evaluated : locationsRead nested (settingsAt ⟨"p/tests/.."⟩) .test =
      some (["p", "tests", "config.lnegc"], ["p", "tests", "config.lnegc"]) := by decide +kernel
  exact ⟨by decide +kernel, of_locationsRead evaluated⟩

end SpecPrompt
