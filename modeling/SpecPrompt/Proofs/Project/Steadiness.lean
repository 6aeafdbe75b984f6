import SpecPrompt.Proofs.Project.Insertion
import SpecPrompt.Proofs.Project.Probing

/-!
# What a compilation does not read

A compilation reads the places for the configuration, the files that replace templates, and the
documents beneath the root. In a tree without links, a change of other files does not change what it
ends in, and neither do directories that are new: every path that is read lies in a directory that was
there, and goes on from it by names alone.

## Main results

- `Settings.Ignores`: the locations that are not read.
- `Settings.Steady.prepare_eq_ok`, `Settings.Steady.compile_eq_ok`: when other files change, a compiler
  is made ready as before and ends in the same prompts.
-/

namespace SpecPrompt

open Outcome

variable {w s : Workspace} {p : Path} {loc base : Location} {content : ByteArray}

/-! ### Paths in a tree that evolves -/

namespace Workspace

namespace Evolves

variable (h : w.Evolves s) (plain : w.tree.NoLinks)
include h

theorem absolute_eq (p : Path) : s.absolute p = w.absolute p := by
  rw [absolute, herePath, h.here_eq, absolute, herePath]

theorem leadsIn (leads : w.LeadsIn p) : s.LeadsIn p := by
  refine ⟨leads.rooted, ?_, ?_⟩ <;> rw [h.here_eq]
  · exact h.directories _ leads.inside
  · exact FileTree.walk_of_directories leads.arrives leads.inside h.directories

include plain

theorem lookup_directory (leads : w.lookup p = .ok (loc, .directory)) :
    s.lookup p = .ok (loc, .directory) := by
  obtain ⟨sound, arrives, there⟩ := lookup_eq_ok_iff.mp leads
  have inside := FileTree.isDirectoryIn_of_node? there
  rw [FileTree.follow_eq_ok_iff plain] at arrives
  refine lookup_eq_ok_iff.mpr ⟨sound, (FileTree.follow_eq_ok_iff h.noLinks).mpr ?_,
    FileTree.node?_of_isDirectoryIn (h.directories loc inside)⟩
  rw [h.here_eq]
  exact FileTree.walk_of_directories arrives inside h.directories

theorem isDirectory_eq_true (directory : w.isDirectory p = true) : s.isDirectory p = true := by
  obtain ⟨loc, leads⟩ := Scanner.exists_lookup_of_isDirectory directory
  rw [isDirectory, h.lookup_directory plain leads]

theorem lookup_file (same : s.tree.file? loc = w.tree.file? loc)
    (leads : w.lookup p = .ok (loc, .file content)) : s.lookup p = .ok (loc, .file content) := by
  obtain ⟨parent, name, reached, place, file⟩ := (lookup_file_iff plain).mp leads
  refine (lookup_file_iff h.noLinks).mpr
    ⟨parent, name, h.locateEntry_eq_ok plain reached, place, ?_⟩
  rwa [← FileTree.file?_eq_some_iff, same, FileTree.file?_eq_some_iff]

end Evolves

end Workspace

/-! ### Locations that are not read -/

/-- What is at `loc` has no part in a compilation with the settings, be it a file or not: there is no
place for the configuration, no file for a template, and no path of a document. -/
structure Settings.Ignores (settings : Settings) (w : Workspace) (loc : Location) : Prop where
  configuration : ∀ root, w.absolute settings.root = .ok root →
    ∀ place ∈ configurationPlaces root, place.spot w.here ≠ loc
  template : ∀ directory ∈ settings.templates, ∀ category,
    (Prompt.overridePath directory category).spot w.here ≠ loc
  document : ∀ scanner, Scanner.ofSettings w settings = .ok scanner → ∀ names, names ≠ [] →
    scanner.passes ("/".intercalate names) = true → scanner.root.spot w.here ++ names ≠ loc

/-- Settings without a folder for templates ignore what has another name than the configuration and is
kept out of the documents by the globs. -/
theorem Settings.ignores_of_absolute {settings : Settings} {root : Path}
    (absolute : w.absolute settings.root = .ok root) (standard : settings.templates = none)
    (other : loc.getLast? ≠ some "config.lnegc")
    (documents : ∀ scanner, Scanner.ofSettings w settings = .ok scanner → ∀ names,
      root.spot w.here ++ names = loc → scanner.passes ("/".intercalate names) = false) :
    settings.Ignores w loc where
  configuration _ _ place listed same := by
    rw [← same, getLast?_spot_of_mem_configurationPlaces listed] at other
    exact other rfl
  template directory named := by simp [standard] at named
  document scanner scanned names _ passes same := by
    have own := (Scanner.ofSettings_eq_ok_iff.mp scanned).1
    obtain rfl := Except.ok.inj (absolute.symm.trans own)
    rw [documents scanner scanned names same] at passes
    cases passes

/-- `s` is `w` with more directories, and with other files where the settings ignore them. -/
structure Settings.Steady (settings : Settings) (w s : Workspace) : Prop where
  evolves : w.Evolves s
  same : ∀ loc, s.tree.file? loc = w.tree.file? loc ∨ settings.Ignores w loc

variable {settings : Settings} {c : Compiler}

/-! ### Making ready -/

/-- Settings are found sound again wherever the directories they name are still there. -/
theorem Settings.validate_of_directories
    (keeps : ∀ p, w.isDirectory p = true → s.isDirectory p = true)
    (valid : settings.validate w = .ok ()) : settings.validate s = .ok () := by
  have accepted := validate_eq_ok_iff.mp valid
  exact validate_eq_ok_iff.mpr { accepted with
    root := keeps _ accepted.root
    templates := fun directory named => keeps _ (accepted.templates directory named) }

theorem isName_template (category : Category) : IsName (category.templateName ++ ".tera") := by
  cases category <;> decide

theorem Prompt.spot_overridePath (directory : Path) (category : Category) (here : Location) :
    (overridePath directory category).spot here =
      directory.spot here ++ [category.templateName ++ ".tera"] := by
  have valid := isName_template category
  exact directory.spot_join ⟨valid.1.1, valid.1.2.1, valid.1.2.2, valid.2.1.1⟩ here

namespace Settings.Steady

variable (h : settings.Steady w s)
include h

theorem file?_eq (read : ¬ settings.Ignores w loc) : s.tree.file? loc = w.tree.file? loc :=
  (h.same loc).resolve_right read

/-- A template is replaced by the same file. -/
theorem result_override (plain : w.tree.NoLinks) {directory : Path}
    (named : settings.templates = some directory) (there : w.isDirectory directory = true)
    (templates : Prompt.Templates) (category : Category) :
    (Prompt.override s directory templates category).result =
      (Prompt.override w directory templates category).result := by
  obtain ⟨base, leads⟩ := Scanner.exists_lookup_of_isDirectory there
  have valid : ∀ name ∈ [category.templateName ++ ".tera"], IsName name := by
    simpa using isName_template category
  have path_eq : Prompt.overridePath directory category =
      directory.join ⟨"/".intercalate [category.templateName ++ ".tera"]⟩ := by
    rw [String.intercalate_singleton, Prompt.overridePath]
  have same : s.tree.file? (base ++ [category.templateName ++ ".tera"]) =
      w.tree.file? (base ++ [category.templateName ++ ".tera"]) := by
    refine h.file?_eq fun ignored => ignored.template directory named category ?_
    rw [Prompt.spot_overridePath, Workspace.spot_of_lookup plain leads]
  have isFile : s.isFile (Prompt.overridePath directory category) =
      w.isFile (Prompt.overridePath directory category) := by
    have leads' := h.evolves.lookup_directory plain leads
    rw [path_eq, Bool.eq_iff_iff, Workspace.isFile_join leads plain (by simp) valid,
      Workspace.isFile_join leads' h.evolves.noLinks (by simp) valid, same]
  unfold Prompt.override
  dsimp only
  rw [isFile]
  cases there : w.isFile (Prompt.overridePath directory category) with
  | false => rfl
  | true =>
    have read : s.readBytes (Prompt.overridePath directory category) =
        w.readBytes (Prompt.overridePath directory category) := by
      obtain ⟨loc, content, leads'⟩ := Workspace.isFile_iff.mp there
      have place := Workspace.spot_of_lookup plain leads'
      rw [Prompt.spot_overridePath, Workspace.spot_of_lookup plain leads] at place
      rw [place] at same
      rw [Workspace.readBytes, h.evolves.lookup_file plain same leads', Workspace.readBytes, leads']
    rw [read]

theorem prepare_eq_ok (plain : w.tree.NoLinks)
    (prepared : (Compiler.prepare w settings).result = .ok c) :
    (Compiler.prepare s settings).result = .ok c := by
  obtain ⟨valid, scanned, loaded, rfl⟩ := Compiler.of_prepare_eq_ok prepared
  have keeps := fun p => h.evolves.isDirectory_eq_true plain (p := p)
  have valid' := Settings.validate_of_directories keeps valid
  have scanned' : Scanner.ofSettings s c.settings = .ok c.scanner := by
    rw [← scanned, Scanner.ofSettings, h.evolves.absolute_eq]
    rfl
  have loaded' : (Prompt.loadTemplates s c.settings).result = .ok c.templates := by
    rw [← loaded]
    unfold Prompt.loadTemplates
    cases named : c.settings.templates with
    | none => rfl
    | some directory =>
      have there := (Settings.validate_eq_ok_iff.mp valid).templates directory named
      exact result_foldlM_congr (fun templates category _ =>
        h.result_override plain named there templates category) _
  refine bind_eq_ok_iff.mpr ⟨(), valid', bind_eq_ok_iff.mpr ⟨c.scanner, scanned', ?_⟩⟩
  exact bind_eq_ok_iff.mpr ⟨c.templates, loaded', rfl⟩

/-! ### The configuration -/

theorem isFile_eq_of_mem_configurationPlaces (plain : w.tree.NoLinks) {root place : Path}
    (leads : w.LeadsIn root) (absolute : w.absolute settings.root = .ok root)
    (listed : place ∈ configurationPlaces root) : s.isFile place = w.isFile place := by
  have same : s.tree.file? (place.spot w.here) = w.tree.file? (place.spot w.here) :=
    h.file?_eq fun ignored => ignored.configuration root absolute place listed rfl
  rw [Bool.eq_iff_iff, Workspace.isFile_of_mem_configurationPlaces leads plain listed,
    Workspace.isFile_of_mem_configurationPlaces (h.evolves.leadsIn leads) h.evolves.noLinks listed,
    h.evolves.here_eq, same]

/-- The same configuration is found, and it is the same file. -/
theorem result_locateConfiguration (plain : w.tree.NoLinks)
    (prepared : (Compiler.prepare w settings).result = .ok c) {configuration : Path}
    (located : (w.locateConfiguration settings.root).result = .ok configuration) :
    (s.locateConfiguration settings.root).result = .ok configuration ∧
      s.lookup configuration = w.lookup configuration := by
  have absolute := Compiler.absolute_of_prepare prepared
  obtain ⟨valid, _, _, _⟩ := Compiler.of_prepare_eq_ok prepared
  obtain ⟨base, directory⟩ :=
    Scanner.exists_lookup_of_isDirectory (Settings.validate_eq_ok_iff.mp valid).root
  obtain ⟨leads, _⟩ := Workspace.leadsIn_of_absolute plain directory absolute
  have tests : ∀ place ∈ configurationPlaces c.scanner.root, s.isFile place = w.isFile place :=
    fun place listed => h.isFile_eq_of_mem_configurationPlaces plain leads absolute listed
  have absolute' : s.absolute settings.root = .ok c.scanner.root := by
    rw [h.evolves.absolute_eq, absolute]
  rw [Workspace.result_locateConfiguration absolute] at located
  rw [Workspace.result_locateConfiguration absolute', List.find?_congr tests]
  refine ⟨located, ?_⟩
  split at located
  next place found =>
    obtain rfl := Except.ok.inj located
    have listed := List.mem_of_find?_eq_some found
    obtain ⟨loc, content, leads'⟩ := Workspace.isFile_iff.mp (List.find?_some found)
    have same : s.tree.file? loc = w.tree.file? loc := by
      refine h.file?_eq fun ignored => ignored.configuration _ absolute place listed ?_
      exact Workspace.spot_of_lookup plain leads'
    rw [h.evolves.lookup_file plain same leads', leads']
  · cases located

end Settings.Steady

/-! ### The documents -/

namespace Scanner

variable {scanner : Scanner} {entry : Location × Node} {file : DocumentFile}

theorem documentOf_eq_of_noLink (noLink : entry.2.isLink = false) :
    scanner.documentOf s base entry = scanner.documentOf w base entry := by
  obtain ⟨loc, node⟩ := entry
  have same : ∀ names, scanner.accepts s ⟨names, node⟩ = scanner.accepts w ⟨names, node⟩ := by
    intro names
    cases node with
    | directory => rfl
    | file content => rfl
    | link target => cases noLink
  simp only [documentOf, same]

theorem of_documentOf (noLink : entry.2.isLink = false)
    (found : scanner.documentOf w base entry = some file) :
    ∃ names content, names ≠ [] ∧ entry = (base ++ names, .file content) ∧
      scanner.passes ("/".intercalate names) = true ∧
      file = scanner.documentAt ⟨names, .file content⟩ := by
  obtain ⟨loc, node⟩ := entry
  obtain ⟨names, more, place⟩ := exists_of_documentOf found
  obtain rfl : loc = base ++ names := place
  rw [documentOf_append more] at found
  split at found
  next accepted =>
    obtain rfl := Option.some.inj found
    obtain ⟨finds, passes⟩ := Bool.and_eq_true_iff.mp accepted
    cases node with
    | directory => cases finds
    | file content => exact ⟨names, content, more, rfl, passes, rfl⟩
    | link target => cases noLink
  · cases found

end Scanner

namespace Settings.Steady

variable (h : settings.Steady w s) (plain : w.tree.NoLinks)
  (scanned : Scanner.ofSettings w settings = .ok c.scanner)
  (directory : w.lookup c.scanner.root = .ok (base, .directory))
include h plain scanned directory

/-- The entries that are documents are the same. -/
theorem mem_toList_iff {entry : Location × Node}
    (found : (c.scanner.documentOf w base entry).isSome = true) :
    entry ∈ s.tree.nodes.toList ↔ entry ∈ w.tree.nodes.toList := by
  have agree : entry.2.isLink = false →
      (entry ∈ s.tree.nodes.toList ↔ entry ∈ w.tree.nodes.toList) := by
    intro noLink
    obtain ⟨file, found⟩ := Option.isSome_iff_exists.mp found
    obtain ⟨names, content, more, rfl, passes, _⟩ := Scanner.of_documentOf noLink found
    have same : s.tree.file? (base ++ names) = w.tree.file? (base ++ names) := by
      refine h.file?_eq fun ignored => ignored.document _ scanned names more passes ?_
      rw [Workspace.spot_of_lookup plain directory]
    rw [SortedMap.mem_toList_iff, SortedMap.mem_toList_iff, ← FileTree.file?_eq_some_iff, same,
      FileTree.file?_eq_some_iff]
  exact ⟨fun listed => (agree (h.evolves.noLinks entry listed)).mp listed,
    fun listed => (agree (plain entry listed)).mpr listed⟩

theorem accepted_eq : c.scanner.accepted s = c.scanner.accepted w := by
  have only : ∀ entries : List (Location × Node), entries.filterMap (c.scanner.documentOf w base) =
      (entries.filter fun entry => (c.scanner.documentOf w base entry).isSome).filterMap
        (c.scanner.documentOf w base) := by
    intro entries
    rw [List.filterMap_filter]
    refine List.filterMap_congr fun entry _ => ?_
    cases c.scanner.documentOf w base entry <;> rfl
  have directory' := h.evolves.lookup_directory plain directory
  have documents : s.tree.nodes.toList.filterMap (c.scanner.documentOf s base) =
      s.tree.nodes.toList.filterMap (c.scanner.documentOf w base) :=
    List.filterMap_congr fun entry listed =>
      Scanner.documentOf_eq_of_noLink (h.evolves.noLinks entry listed)
  rw [Scanner.accepted_eq directory', Scanner.accepted_eq directory, documents, only,
    only w.tree.nodes.toList,
    SortedMap.filter_toList_eq fun entry found => h.mem_toList_iff plain scanned directory found]

/-- A document is the same file, or its path is too long. -/
theorem lookup_eq_of_mem_accepted {file : DocumentFile} (listed : file ∈ c.scanner.accepted w) :
    s.lookup file.path = w.lookup file.path := by
  rw [Scanner.accepted_eq directory, (Scanner.sorted_perm _).mem_iff] at listed
  obtain ⟨entry, there, found⟩ := List.mem_filterMap.mp listed
  have there' := (h.mem_toList_iff plain scanned directory (by rw [found]; rfl)).mpr there
  obtain ⟨names, content, more, rfl, _, rfl⟩ := Scanner.of_documentOf (plain _ there) found
  have path_eq : (c.scanner.documentAt ⟨names, .file content⟩).path =
      c.scanner.root.join ⟨"/".intercalate names⟩ := by
    simp [Scanner.documentAt, Scanner.pathOf, more]
  have leads : ∀ t : Workspace, (base ++ names, .file content) ∈ t.tree.nodes.toList →
      t.lookup c.scanner.root = .ok (base, .directory) →
      t.lookup (c.scanner.documentAt ⟨names, .file content⟩).path =
        if pathLimit ≤ (c.scanner.root.join ⟨"/".intercalate names⟩).text.utf8ByteSize then
          .error .nameTooLong
        else .ok (base ++ names, .file content) := by
    intro t listed directory
    rw [path_eq]
    exact Workspace.lookup_join
      (FileTree.mem_beneath_of_get? more (SortedMap.mem_toList_iff.mp listed)) (fun _ => by simp)
      directory
  rw [leads s there' (h.evolves.lookup_directory plain directory), leads w there directory]

end Settings.Steady

/-! ### Compiling -/

theorem Workspace.readDocument_congr (same : s.lookup p = w.lookup p) :
    s.readDocument p = w.readDocument p := by
  have there : s.pathExists p = w.pathExists p := by rw [pathExists, same, pathExists]
  have text : s.readText p = w.readText p := by
    rw [readText, readBytes, same]
    rfl
  rw [readDocument, there, text]
  rfl

theorem Compiler.result_compileCategory_congr {files : List DocumentFile}
    (same : ∀ file ∈ files, s.lookup file.path = w.lookup file.path) (c : Compiler)
    (language : String) (category : Category) :
    (c.compileCategory s language files category).result =
      (c.compileCategory w language files category).result := by
  unfold compileCategory
  have added := result_foldlM_congr (l := files.filter fun file => category.holds file.relative)
    (f := c.addFile s category) (g := c.addFile w category) (fun kept file listed => by
      unfold addFile
      rw [Workspace.readDocument_congr (same file (List.mem_filter.mp listed).1)]) []
  simp only [result_bind, added]

/-- If only files change that the settings ignore, the compiler ends in the same result, as long as the
walk can open the directories that are new. -/
theorem Settings.Steady.compile_eq_ok (h : settings.Steady w s) (plain : w.tree.NoLinks)
    (prepared : (Compiler.prepare w settings).result = .ok c)
    (opens : ∀ found ∈ s.listing c.scanner.root, found ∉ w.listing c.scanner.root →
      c.scanner.outOfReach found = false)
    {compiled : String × Prompts} (succeeds : (c.compile w).result = .ok compiled) :
    (c.compile s).result = .ok compiled := by
  obtain ⟨_, scanned, _, rfl⟩ := Compiler.of_prepare_eq_ok prepared
  unfold Compiler.compile Compiler.compileWith at succeeds ⊢
  obtain ⟨configuration, located, succeeds⟩ := bind_eq_ok_iff.mp succeeds
  obtain ⟨language, chosen, succeeds⟩ := bind_eq_ok_iff.mp succeeds
  obtain ⟨files, found, succeeds⟩ := bind_eq_ok_iff.mp succeeds
  obtain ⟨located', same⟩ := h.result_locateConfiguration plain prepared located
  rw [Compiler.languageFrom, ← Workspace.readDocument_congr same] at chosen
  obtain ⟨⟨there, opened⟩, rfl⟩ := Scanner.scan_eq_ok_iff.mp found
  obtain ⟨base, directory⟩ := Scanner.exists_lookup_of_isDirectory there
  -- What was listed before was opened by the first compilation.
  have walks : c.scanner.Walks s := by
    intro found listed
    by_cases before : found ∈ w.listing c.scanner.root
    · exact opened found before
    · exact opens found listed before
  have found' : (c.scanner.scan s).result = .ok (c.scanner.accepted w) :=
    Scanner.scan_eq_ok_iff.mpr ⟨⟨h.evolves.isDirectory_eq_true plain there, walks⟩,
      h.accepted_eq plain scanned directory⟩
  refine bind_eq_ok_iff.mpr ⟨configuration, located', bind_eq_ok_iff.mpr ⟨language, chosen, ?_⟩⟩
  refine bind_eq_ok_iff.mpr ⟨c.scanner.accepted w, found', ?_⟩
  have documents : ∀ file ∈ (c.scanner.accepted w).filter fun file =>
      !file.path.sameAs configuration, s.lookup file.path = w.lookup file.path :=
    fun file listed => h.lookup_eq_of_mem_accepted plain scanned directory
      (List.mem_filter.mp listed).1
  have categories := Compiler.result_compileCategory_congr documents c language
  rw [← succeeds]
  simp only [result_bind, result_mapM, categories]

end SpecPrompt
