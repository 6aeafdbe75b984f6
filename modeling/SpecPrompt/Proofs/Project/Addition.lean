import SpecPrompt.Proofs.Project.Configuration
import SpecPrompt.Proofs.Project.Insertion
import SpecPrompt.Proofs.Project.Slots

/-!
# Adding a document

A document added to a project gets a prompt in each category that holds its path, and no other prompt
changes. Under a new name the prompt comes after those of the names that occur among the documents
before it. Under a name that is known already there is one prompt as before.

## Main result

`compile_addDocument`: the prompts of a project with one document more.
-/

namespace SpecPrompt

/-! ### Reading in a workspace that grows -/

open Outcome

variable {w w' : Workspace}

theorem Workspace.result_readDocument_eq_ok_iff {p : Path} {document : Document} :
    (w.readDocument p).result = .ok document ↔
      ∃ text, w.readText p = .ok text ∧ Document.parse text = document := by
  unfold readDocument
  rw [result_bind_of_ok rfl]
  cases read : w.readText p with
  | error fault =>
    refine ⟨fun h => ?_, nofun⟩
    split at h <;> cases h
  | ok text =>
    obtain ⟨content, bytes, _⟩ := except_bind_eq_ok_iff.mp read
    obtain ⟨entry, leads, _⟩ := except_bind_eq_ok_iff.mp bytes
    have found : w.pathExists p = true := by
      rw [pathExists, leads]
      rfl
    rw [found]
    constructor
    · intro h
      exact ⟨text, rfl, Except.ok.inj h⟩
    · rintro ⟨other, same, rfl⟩
      obtain rfl := Except.ok.inj same
      rfl

theorem readAs_of_readText {file : DocumentFile} {text : String}
    (read : w.readText file.path = .ok text) (category : Category) :
    ReadAs w category file ⟨displayName (Document.parse text) category, Document.parse text⟩ where
  read := Workspace.result_readDocument_eq_ok_iff.mpr ⟨text, read, rfl⟩
  name_eq := by dsimp only

namespace Workspace.Grows

variable (grows : w.Grows w')
include grows

theorem result_readDocument {p : Path} {document : Document}
    (read : (w.readDocument p).result = .ok document) :
    (w'.readDocument p).result = .ok document := by
  rw [result_readDocument_eq_ok_iff] at read ⊢
  obtain ⟨text, read, parsed⟩ := read
  exact ⟨text, grows.readText_eq_ok read, parsed⟩

theorem holdsText {p : Path} (text : w.holdsText p = true) : w'.holdsText p = true := by
  unfold Workspace.holdsText at text ⊢
  cases read : w.readText p with
  | error fault =>
    rw [read] at text
    cases text
  | ok s =>
    rw [grows.readText_eq_ok read]
    rfl

theorem readAs {category : Category} {file : DocumentFile} {d : NamedDocument}
    (reads : ReadAs w category file d) : ReadAs w' category file d :=
  ⟨grows.result_readDocument reads.read, reads.name_eq⟩

theorem languageFrom {c : Compiler} {configuration : Path} {language : String}
    (chosen : (c.languageFrom w configuration).result = .ok language) :
    (c.languageFrom w' configuration).result = .ok language := by
  obtain ⟨document, read, resolved⟩ := bind_eq_ok_iff.mp chosen
  exact bind_eq_ok_iff.mpr ⟨document, grows.result_readDocument read, resolved⟩

theorem configurationCandidates (root : Path) :
    w'.configurationCandidates root = w.configurationCandidates root := by
  rw [Workspace.configurationCandidates, grows.absolute_eq, Workspace.configurationCandidates]

end Workspace.Grows

namespace Compiler

variable {c : Compiler} {language : String} {prompts : Prompts}

theorem of_compile_eq_ok (compiled : (c.compile w).result = .ok (language, prompts)) :
    ∃ configuration, (w.locateConfiguration c.settings.root).result = .ok configuration ∧
      (c.languageFrom w configuration).result = .ok language ∧
      ∀ category, c.selected w category = .ok (c.filesOf w configuration category) := by
  -- A compilation that succeeds has gone through all of its steps.
  unfold compile compileWith at compiled
  obtain ⟨configuration, located, compiled⟩ := bind_eq_ok_iff.mp compiled
  obtain ⟨chosen, stated, compiled⟩ := bind_eq_ok_iff.mp compiled
  obtain ⟨scanned, found, compiled⟩ := bind_eq_ok_iff.mp compiled
  obtain ⟨results, _, compiled⟩ := bind_eq_ok_iff.mp compiled
  obtain ⟨rfl, _⟩ := Prod.mk.inj (Except.ok.inj compiled)
  refine ⟨configuration, located, stated, fun category => ?_⟩
  obtain ⟨-, rfl⟩ := Scanner.scan_eq_ok_iff.mp found
  rw [selected, located, found]
  rfl

end Compiler

/-! ### The document added -/

namespace Scanner.AddsDocument

variable {s : Scanner} {base : Location} {names : List String} {content : ByteArray}
  (adds : s.AddsDocument w base names content w')
include adds

theorem lookup_eq_ok
    (short : (s.documentAt ⟨names, .file content⟩).path.text.utf8ByteSize < pathLimit) :
    w'.lookup (s.documentAt ⟨names, .file content⟩).path =
      .ok (base ++ names, .file content) := by
  have path_eq : (s.documentAt ⟨names, .file content⟩).path =
      s.root.join ⟨"/".intercalate names⟩ := by
    simp [documentAt, pathOf, adds.names_ne_nil]
  have noLink : ∀ target, Node.file content ≠ .link target := by
    intro target same
    cases same
  have beneath := FileTree.mem_beneath_of_get? adds.names_ne_nil adds.file.added
  have leads := adds.file.grows.lookup_eq_ok adds.directory
  rw [path_eq] at short ⊢
  rw [Workspace.lookup_join beneath noLink leads, if_neg (by omega)]

theorem readText_eq_ok {text : String} (decodes : String.fromUTF8? content = some text)
    (short : (s.documentAt ⟨names, .file content⟩).path.text.utf8ByteSize < pathLimit) :
    w'.readText (s.documentAt ⟨names, .file content⟩).path = .ok text := by
  rw [Workspace.readText, Workspace.readBytes, adds.lookup_eq_ok short]
  simp only [bind, Except.bind, decodes]

theorem sameAs_eq_false
    (short : (s.documentAt ⟨names, .file content⟩).path.text.utf8ByteSize < pathLimit) {p : Path}
    (file : w.isFile p = true) :
    (s.documentAt ⟨names, .file content⟩).path.sameAs p = false := by
  -- Otherwise the place of the new file would have been taken before.
  by_contra same
  rw [Bool.not_eq_false] at same
  obtain ⟨loc, content', leads⟩ := Workspace.isFile_iff.mp file
  have leads' := adds.file.grows.lookup_eq_ok leads
  obtain rfl := Workspace.location_eq_of_sameAs same (adds.lookup_eq_ok short) leads'
  obtain ⟨_, _, found⟩ := Workspace.lookup_eq_ok_iff.mp leads
  rw [FileTree.node?, if_neg (by simp [adds.names_ne_nil]), adds.file.vacant] at found
  cases found

end Scanner.AddsDocument

namespace Compiler

variable {c : Compiler} {base : Location} {names : List String} {content : ByteArray}
  {language text : String} {prompts : Prompts} {places : List Path} {configuration : Path}

section

variable {added : DocumentFile} {category : Category}

theorem sortsIn_filesOf
    (sorts : Scanner.SortsIn added (c.scanner.accepted w) (c.scanner.accepted w'))
    (other : added.path.sameAs configuration = false)
    (held : category.holds added.relative = true) :
    Scanner.SortsIn added (c.filesOf w configuration category)
      (c.filesOf w' configuration category) :=
  (sorts.filter_of_pos (by rw [other]; rfl)).filter_of_pos held

theorem filesOf_eq (sorts : Scanner.SortsIn added (c.scanner.accepted w) (c.scanner.accepted w'))
    (elsewhere : category.holds added.relative = false) :
    c.filesOf w' configuration category = c.filesOf w configuration category := by
  unfold filesOf
  rw [List.filter_filter, List.filter_filter, sorts.filter_of_neg]
  rw [elsewhere, Bool.false_and]

end

theorem exists_compile_addDocument (standard : c.templates = Prompt.builtin)
    (compiled : (c.compile w).result = .ok (language, prompts))
    (candidates : (w.configurationCandidates c.settings.root).result = .ok places)
    (adds : c.scanner.AddsDocument w base names content w')
    (decodes : String.fromUTF8? content = some text)
    (configured : places.find? w'.isFile = places.find? w.isFile)
    (housed : c.scanner.outOfReach ⟨names.dropLast, .directory⟩ = false)
    (short : ∀ category : Category,
      category.holds (c.scanner.documentAt ⟨names, .file content⟩).relative = true →
        (c.scanner.documentAt ⟨names, .file content⟩).path.text.utf8ByteSize < pathLimit)
    (steady : ∀ found ∈ w.listing c.scanner.root,
      c.scanner.accepts w' found = c.scanner.accepts w found) :
    ∃ prompts' configuration, (c.compile w').result = .ok (language, prompts') ∧
      w.isFile configuration = true ∧
      (∀ category, c.selected w category = .ok (c.filesOf w configuration category)) ∧
      ∀ category, c.selected w' category = .ok (c.filesOf w' configuration category) := by
  have grows := adds.file.grows
  obtain ⟨configuration, located, decoded, directory, walks, sound⟩ := verdict_eq_none_iff.mp
    ((exists_compile_iff standard candidates).mp ⟨_, compiled⟩)
  have candidates' : (w'.configurationCandidates c.settings.root).result = .ok places := by
    rw [grows.configurationCandidates, candidates]
  have located' : places.find? w'.isFile = some configuration := configured.trans located
  -- Nothing stands against the compilation: what was sound before still is, and so is the new file.
  have sound' : c.verdict w' places = none := by
    refine verdict_eq_none_iff.mpr ⟨configuration, located', grows.holdsText decoded,
      grows.isDirectory_eq_true directory, adds.walks walks housed,
      fun file listed other held => ?_⟩
    rcases (Scanner.sortsIn_accepted adds steady).mem_iff.mp listed with rfl | old
    · obtain ⟨category, held⟩ := held
      refine ⟨short category held, ?_⟩
      rw [Workspace.holdsText, adds.readText_eq_ok decodes (short category held)]
      rfl
    · obtain ⟨short, text⟩ := sound file old other held
      exact ⟨short, grows.holdsText text⟩
  obtain ⟨⟨language', prompts'⟩, compiled'⟩ :=
    (exists_compile_iff standard candidates').mpr sound'
  -- The configuration is found again, and states the same language.
  obtain ⟨found, tried, chosen, selects⟩ := of_compile_eq_ok compiled
  obtain ⟨found', tried', chosen', selects'⟩ := of_compile_eq_ok compiled'
  obtain rfl : configuration = found :=
    Option.some.inj (located.symm.trans (find?_of_located candidates tried))
  obtain rfl : configuration = found' :=
    Option.some.inj (located'.symm.trans (find?_of_located candidates' tried'))
  obtain rfl : language = language' :=
    Except.ok.inj ((grows.languageFrom chosen).symm.trans chosen')
  exact ⟨prompts', configuration, compiled', List.find?_some located, selects, selects'⟩

end Compiler

private theorem exists_append_of_forall₂ {α β : Type} {R : α → β → Prop} {l₁ l₂ : List α}
    {l : List β} (h : List.Forall₂ R (l₁ ++ l₂) l) :
    ∃ l₁' l₂', l = l₁' ++ l₂' ∧ List.Forall₂ R l₁ l₁' ∧ List.Forall₂ R l₂ l₂' := by
  refine ⟨l.take l₁.length, l.drop l₁.length, (List.take_append_drop _ _).symm, ?_, ?_⟩
  · exact (List.forall₂_take_append _ _ _ h.flip).flip
  · exact (List.forall₂_drop_append _ _ _ h.flip).flip

section

variable {c : Compiler} {base : Location} {names : List String} {content : ByteArray}
  {language text : String} {prompts : Prompts} {places : List Path}

/-- The prompts of a project with one document more. -/
theorem compile_addDocument (standard : c.templates = Prompt.builtin)
    (compiled : (c.compile w).result = .ok (language, prompts))
    (candidates : (w.configurationCandidates c.settings.root).result = .ok places)
    (adds : c.scanner.AddsDocument w base names content w')
    (decodes : String.fromUTF8? content = some text)
    (configured : places.find? w'.isFile = places.find? w.isFile)
    (housed : c.scanner.outOfReach ⟨names.dropLast, .directory⟩ = false)
    (short : ∀ category : Category,
      category.holds (c.scanner.documentAt ⟨names, .file content⟩).relative = true →
        (c.scanner.documentAt ⟨names, .file content⟩).path.text.utf8ByteSize < pathLimit)
    (steady : ∀ found ∈ w.listing c.scanner.root,
      c.scanner.accepts w' found = c.scanner.accepts w found) :
    ∃ prompts', (c.compile w').result = .ok (language, prompts') ∧ ∀ category : Category,
      let added := c.scanner.documentAt ⟨names, .file content⟩
      let document := Document.parse text
      (category.holds added.relative = false → prompts'.of category = prompts.of category) ∧
      (category.holds added.relative = true →
        ∃ files earlier later, c.selected w category = .ok files ∧
          List.Forall₂ (ReadAs w category)
            (files.filter fun file => file.relative < added.relative) earlier ∧
          List.Forall₂ (ReadAs w category)
            (files.filter fun file => added.relative < file.relative) later ∧
          Inserts c category language earlier later ⟨displayName document category, document⟩
            (prompts.of category) (prompts'.of category)) := by
  obtain ⟨prompts', configuration, compiled', isFile, selects, selects'⟩ :=
    Compiler.exists_compile_addDocument standard compiled candidates adds decodes configured housed
      short steady
  have sorts := Scanner.sortsIn_accepted adds steady
  refine ⟨prompts', compiled', fun category => ?_⟩
  intro added document
  obtain ⟨files, documents, selected, reads, shown, _⟩ :=
    Compiler.prompts_of_compile compiled category
  obtain ⟨files', documents', selected', reads', shown', _⟩ :=
    Compiler.prompts_of_compile compiled' category
  obtain rfl : c.filesOf w configuration category = files :=
    Except.ok.inj ((selects category).symm.trans selected)
  obtain rfl : c.filesOf w' configuration category = files' :=
    Except.ok.inj ((selects' category).symm.trans selected')
  constructor
  · intro elsewhere
    rw [Compiler.filesOf_eq sorts elsewhere] at reads'
    obtain rfl := eq_of_forall₂_readAs (reads.imp fun _ _ read => adds.file.grows.readAs read) reads'
    rw [eq_map_promptUnder shown, eq_map_promptUnder shown']
  · intro held
    have other := adds.sameAs_eq_false (short category held) isFile
    obtain ⟨lower, upper, without, along, below, above⟩ :=
      Compiler.sortsIn_filesOf sorts other held
    rw [along] at reads'
    rw [without] at reads selected
    obtain ⟨earlier, later, rfl, early, late⟩ := exists_append_of_forall₂ reads
    have new : ReadAs w' category added ⟨displayName document category, document⟩ :=
      readAs_of_readText (adds.readText_eq_ok decodes (short category held)) category
    -- The documents of the project before are read again as they were.
    have early' := early.imp fun _ _ read => adds.file.grows.readAs read
    have late' := late.imp fun _ _ read => adds.file.grows.readAs read
    obtain rfl := eq_of_forall₂_readAs reads' (List.rel_append early' (.cons new late'))
    refine ⟨_, earlier, later, selected, ?_, ?_, inserts_of_shown shown shown'⟩
    · rw [filter_append_left]
      · exact early
      · exact fun file listed => decide_eq_true (below file listed)
      · exact fun file listed => decide_eq_false (lt_asymm (above file listed))
    · rw [filter_append_right]
      · exact late
      · exact fun file listed => decide_eq_false (lt_asymm (below file listed))
      · exact fun file listed => decide_eq_true (above file listed)

end

/-! ### A second test -/

/-- The project with one test. -/
def soleTest : Workspace := noTest.place ["p", "tests", "x.lnegc"] (.file .empty)

theorem addsFile_twoTests :
    soleTest.AddsFile (["p"] ++ ["tests", "y.lnegc"]) .empty twoTests :=
  Workspace.addsFile_place (by decide) (by decide)

theorem relative_addedTest (s : Scanner) :
    (s.documentAt ⟨["tests", "y.lnegc"], .file .empty⟩).relative = "tests/y.lnegc" := by
  change Text.replaceChar '\\' '/' ("/".intercalate ["tests", "y.lnegc"]) = "tests/y.lnegc"
  decide

theorem exists_prepared_soleTest :
    ∃ c, (Compiler.prepare soleTest (settingsAt ⟨"/p"⟩)).result = .ok c ∧
      c.isSound soleTest = true ∧ c.scanner.root = ⟨"/p"⟩ ∧
      c.scanner.passes ("/".intercalate ["tests", "y.lnegc"]) = true ∧
      (∀ found ∈ soleTest.listing c.scanner.root, c.scanner.accepts soleTest found = true →
        (c.scanner.documentAt found).relative ≠
          (c.scanner.documentAt ⟨["tests", "y.lnegc"], .file .empty⟩).relative) ∧
      ∀ found ∈ soleTest.listing c.scanner.root,
        c.scanner.accepts twoTests found = c.scanner.accepts soleTest found :=
  -- The compiler is not written down: one evaluation gives all that is needed of it.
  exists_ok_of_decide (by decide +kernel)

theorem compile_addDocument_soleTest :
    ∃ c language prompts prompts' places,
      ((Compiler.prepare soleTest (settingsAt ⟨"/p"⟩)).result = .ok c ∧
        c.templates = Prompt.builtin ∧
        (c.compile soleTest).result = .ok (language, prompts) ∧
        (soleTest.configurationCandidates c.settings.root).result = .ok places ∧
        c.scanner.AddsDocument soleTest ["p"] ["tests", "y.lnegc"] .empty twoTests ∧
        String.fromUTF8? .empty = some "" ∧
        places.find? twoTests.isFile = places.find? soleTest.isFile ∧
        c.scanner.outOfReach ⟨["tests"], .directory⟩ = false ∧
        (c.scanner.documentAt ⟨["tests", "y.lnegc"], .file .empty⟩).path.text.utf8ByteSize <
          pathLimit ∧
        ∀ found ∈ soleTest.listing c.scanner.root,
          c.scanner.accepts twoTests found = c.scanner.accepts soleTest found) ∧
      (c.compile twoTests).result = .ok (language, prompts') ∧
      prompts'.of .component = prompts.of .component ∧
      ∃ files earlier later, c.selected soleTest .test = .ok files ∧
        List.Forall₂ (ReadAs soleTest .test)
          (files.filter fun file => file.relative < "tests/y.lnegc") earlier ∧
        List.Forall₂ (ReadAs soleTest .test)
          (files.filter fun file => "tests/y.lnegc" < file.relative) later ∧
        Inserts c .test language earlier later ⟨"Teste", Document.parse ""⟩
          (prompts.of .test) (prompts'.of .test) := by
  obtain ⟨c, prepared, sound, root, passes, fresh, steady⟩ := exists_prepared_soleTest
  have standard := templates_of_prepare prepared (templates_settingsAt _)
  have candidates := Compiler.configurationCandidates_of_prepare prepared
  obtain ⟨⟨language, prompts⟩, compiled⟩ :=
    Compiler.exists_compile_of_isSound standard candidates sound
  have directory : soleTest.lookup c.scanner.root = .ok (["p"], .directory) := by
    rw [root]
    decide
  have configured : (configurationPlaces c.scanner.root).find? twoTests.isFile =
      (configurationPlaces c.scanner.root).find? soleTest.isFile := by
    rw [root]
    decide
  have short : (c.scanner.documentAt ⟨["tests", "y.lnegc"], .file .empty⟩).path.text.utf8ByteSize <
      pathLimit := by
    rw [Scanner.documentAt, Scanner.pathOf, root]
    decide
  have housed : c.scanner.outOfReach ⟨["tests"], .directory⟩ = false := by
    rw [Scanner.outOfReach, Scanner.pathOf, root]
    decide
  have relative := relative_addedTest c.scanner
  have decodes : String.fromUTF8? .empty = some "" := by decide
  have adds : c.scanner.AddsDocument soleTest ["p"] ["tests", "y.lnegc"] .empty twoTests :=
    ⟨directory, addsFile_twoTests, passes, fresh⟩
  obtain ⟨prompts', compiled', all⟩ := compile_addDocument standard compiled candidates adds decodes
    configured housed (fun _ _ => short) steady
  -- The new test is held by its own category and by no other.
  have other := (all .component).1 (by rw [relative]; decide)
  have own := (all .test).2 (by rw [relative]; decide)
  have name : displayName (Document.parse "") .test = "Teste" := by decide
  rw [relative, name] at own
  exact ⟨c, language, prompts, prompts', configurationPlaces c.scanner.root,
    ⟨prepared, standard, compiled, candidates, adds, decodes, configured, housed, short, steady⟩, compiled',
    other, own⟩

/-! ### A link that becomes a document -/

/-- A project at `/p` without tests, and with a link in place of a component that leads to none. -/
def danglingLink : Workspace :=
  let tree := noTest.tree.place ["p", "components"] .directory
  ⟨tree.place ["p", "components", "x.lnegc"] (.link "../tests/y.lnegc"), []⟩

/-- The project with the test that the link leads to. -/
def linkedTest : Workspace := danglingLink.place ["p", "tests", "y.lnegc"] (.file .empty)

theorem Compiler.prompts_eq_nil_iff {c : Compiler} {language : String} {prompts : Prompts}
    (compiled : (c.compile w).result = .ok (language, prompts)) (category : Category) :
    prompts.of category = [] ↔ countSelected c w category = 0 := by
  obtain ⟨files, documents, selected, reads, shown, _⟩ := prompts_of_compile compiled category
  rw [← length_of_selected selected, reads.length_eq, ← List.length_eq_zero_iff,
    ← shown.length_eq, List.length_eq_zero_iff, List.length_eq_zero_iff]
  constructor
  · intro none
    rw [List.eq_nil_iff_forall_not_mem] at none ⊢
    exact fun d listed => none d.name (mem_distinctNames.mpr ⟨d, listed, rfl⟩)
  · rintro rfl
    rfl

theorem exists_prepared_danglingLink :
    ∃ c, (Compiler.prepare danglingLink (settingsAt ⟨"/p"⟩)).result = .ok c ∧
      c.isSound danglingLink = true ∧ c.isSound linkedTest = true ∧ c.scanner.root = ⟨"/p"⟩ ∧
      c.scanner.passes ("/".intercalate ["tests", "y.lnegc"]) = true ∧
      (∀ found ∈ danglingLink.listing c.scanner.root,
        c.scanner.accepts danglingLink found = true →
          (c.scanner.documentAt found).relative ≠
            (c.scanner.documentAt ⟨["tests", "y.lnegc"], .file .empty⟩).relative) ∧
      countSelected c danglingLink .component = 0 ∧ countSelected c linkedTest .component = 1 :=
  exists_ok_of_decide (by decide +kernel)

theorem suffix_join (p q : Path) : q.text.toList <:+ (p.join q).text.toList := by
  unfold Path.join
  split
  · exact List.suffix_rfl
  split
  · rw [String.toList_append]
    exact List.suffix_append _ _
  · rw [String.toList_append]
    exact List.suffix_append _ _

theorem suffix_of_mem_configurationPlaces {root place : Path} (h : place ∈ configurationPlaces root) :
    "config.lnegc".toList <:+ place.text.toList := by
  have named : ∃ directory : Path, place = directory.join configurationName := by
    rw [configurationPlaces, List.mem_append, List.mem_flatMap] at h
    rcases h with own | ⟨above, _, own⟩
    · rcases List.mem_cons.mp own with rfl | own
      · exact ⟨_, rfl⟩
      · exact ⟨_, List.mem_singleton.mp own⟩
    · rcases List.mem_cons.mp own with rfl | own
      · exact ⟨_, rfl⟩
      · exact ⟨_, List.mem_singleton.mp own⟩
  obtain ⟨directory, rfl⟩ := named
  exact suffix_join directory configurationName

theorem not_mem_configurationPlaces {root directory : Path} {relative : String}
    (long : "config.lnegc".toList.length ≤ relative.toList.length)
    (other : ¬ "config.lnegc".toList <:+ relative.toList) :
    directory.join ⟨relative⟩ ∉ configurationPlaces root := by
  intro listed
  exact other (List.suffix_of_suffix_length_le (suffix_of_mem_configurationPlaces listed)
    (suffix_join directory ⟨relative⟩) long)

/-- A project at `root` compiles, and an empty file is added to it as a document. -/
structure IsAddition (w : Workspace) (root : Path) (names : List String) (w' : Workspace)
    (c : Compiler) (compiled : String × Prompts) : Prop where
  prepared : (Compiler.prepare w (settingsAt root)).result = .ok c
  standard : c.templates = Prompt.builtin
  succeeds : (c.compile w).result = .ok compiled
  adds : c.scanner.AddsDocument w ["p"] names .empty w'
  /-- The file is not the configuration, and the one that was found before stays. -/
  unconfigured : ∀ places, (w.configurationCandidates c.settings.root).result = .ok places →
    (c.scanner.documentAt ⟨names, .file .empty⟩).path ∉ places ∧
      places.find? w'.isFile = places.find? w.isFile

theorem exists_isAddition_linkedTest :
    ∃ c compiled compiled',
      IsAddition danglingLink ⟨"/p"⟩ ["tests", "y.lnegc"] linkedTest c compiled ∧
      Category.component.holds
        (c.scanner.documentAt ⟨["tests", "y.lnegc"], .file .empty⟩).relative = false ∧
      (c.compile linkedTest).result = .ok compiled' ∧
      compiled'.2.of .component ≠ compiled.2.of .component := by
  obtain ⟨c, prepared, sound, sound', root, passes, fresh, none, one⟩ := exists_prepared_danglingLink
  have standard := templates_of_prepare prepared (templates_settingsAt _)
  have candidates := Compiler.configurationCandidates_of_prepare prepared
  have candidates' : (linkedTest.configurationCandidates c.settings.root).result =
      .ok (configurationPlaces c.scanner.root) := candidates
  obtain ⟨⟨language, prompts⟩, compiled⟩ :=
    Compiler.exists_compile_of_isSound standard candidates sound
  obtain ⟨⟨language', prompts'⟩, compiled'⟩ :=
    Compiler.exists_compile_of_isSound standard candidates' sound'
  have directory : danglingLink.lookup c.scanner.root = .ok (["p"], .directory) := by
    rw [root]
    decide
  have file : danglingLink.AddsFile (["p"] ++ ["tests", "y.lnegc"]) .empty linkedTest :=
    Workspace.addsFile_place (by decide) (by decide)
  refine ⟨c, (language, prompts), (language', prompts'),
    ⟨prepared, standard, compiled, ⟨directory, file, passes, fresh⟩, fun places tried => ?_⟩, ?_,
    compiled', ?_⟩
  · obtain rfl := Except.ok.inj (candidates.symm.trans tried)
    refine ⟨not_mem_configurationPlaces (by decide) (by decide), ?_⟩
    rw [root]
    decide
  · rw [relative_addedTest]
    decide
  -- Where there was no component, the link now leads to one.
  · have before := (Compiler.prompts_eq_nil_iff compiled .component).mpr none
    have after := (Compiler.prompts_eq_nil_iff compiled' .component).not.mpr (by omega)
    rw [before]
    exact after

/-! ### A path that is too long -/

private theorem directory_soleTest : soleTest.tree.nodes.get? ["p"] = some .directory := by
  decide

/-- A file added beneath the root spelled long stops the compilation if something there is too long. -/
private theorem exists_isAddition_longRoot {w' : Workspace} {names : List String}
    (file : noTest.AddsFile (["p"] ++ names) .empty w')
    (new : "/".intercalate names ∈ ["tests/x.lnegc", "documentacao-x/x.lnegc"])
    (long : ∀ s : Scanner, s.root = longRoot → s.passes "tests/x.lnegc" = true → s.Walks w' →
      ∃ file ∈ s.accepted w', file.path.sameAs (plainConfiguration longRoot) = false ∧
        (∃ category : Category, category.holds file.relative = true) ∧
        pathLimit ≤ file.path.text.utf8ByteSize) :
    ∃ c compiled, IsAddition noTest longRoot names w' c compiled ∧
      ¬ ∃ compiled', (c.compile w').result = .ok compiled' := by
  have configured : (["config.lnegc"], Node.file .empty) ∈ noTest.tree.beneath ["p"] := by decide
  obtain ⟨c, ready⟩ :=
    exists_readyAtLongRoot directory_noTest configured (settingsAt longRoot).output
  obtain ⟨compiled, succeeds⟩ := ready.exists_compile_noTest
  -- The file that is added is not the configuration, which is found as before.
  have directory' := file.grows.tree _ _ directory_noTest
  have configured' : (["config.lnegc"], Node.file .empty) ∈ w'.tree.beneath ["p"] :=
    FileTree.mem_beneath_of_get? (by simp)
      (file.grows.tree _ _ (FileTree.mem_beneath configured).2)
  obtain ⟨located', _⟩ := configuration_longRoot directory' configured'
  have named : ∀ relative ∈ ["tests/x.lnegc", "documentacao-x/x.lnegc"],
      "config.lnegc" ≠ Text.replaceChar '\\' '/' relative ∧
        "config.lnegc".toList.length ≤ relative.toList.length ∧
        ¬ "config.lnegc".toList <:+ relative.toList := by decide
  obtain ⟨other, longer, ending⟩ := named _ new
  have more : names ≠ [] := by
    rintro rfl
    exact absurd longer (by decide)
  refine ⟨c, compiled, ⟨ready.prepared, ready.standard, succeeds,
    ⟨ready.leads, file, ready.passes _ new, fun found among accepted => ?_⟩,
    fun places found => ?_⟩, ?_⟩
  · rw [relative_of_mem_listing_noTest ready.leads among accepted]
    exact other
  · obtain rfl := Except.ok.inj ((ready.candidates noTest).symm.trans found)
    refine ⟨?_, located'.trans ready.located.symm⟩
    rw [Scanner.documentAt, Scanner.pathOf_eq more]
    exact not_mem_configurationPlaces longer ending
  · exact Compiler.not_exists_compile_of_long ready.standard (ready.candidates w') located'
      (long c.scanner ready.rooted (ready.passes _ (by simp)))

/-- The project with a document in a new folder that belongs to no category. -/
def folderTest : Workspace :=
  (noTest.place ["p", "documentacao-x"] .directory).place ["p", "documentacao-x", "x.lnegc"]
    (.file .empty)

/-- The walk from the root spelled long cannot open the new folder. -/
theorem exists_isAddition_folderTest :
    ∃ c compiled,
      IsAddition noTest longRoot ["documentacao-x", "x.lnegc"] folderTest c compiled ∧
      ¬ ∃ compiled', (c.compile folderTest).result = .ok compiled' := by
  have last : (noTest.place ["p", "documentacao-x"] .directory).AddsFile
      (["p"] ++ ["documentacao-x", "x.lnegc"]) .empty folderTest :=
    Workspace.addsFile_place (by decide) (by decide)
  have file : noTest.AddsFile (["p"] ++ ["documentacao-x", "x.lnegc"]) .empty folderTest :=
    last.of_place_directory (by decide) (by decide) (by decide)
  refine exists_isAddition_longRoot file (by decide) fun s rooted _ walks => ?_
  have directory : folderTest.tree.nodes.get? ["p"] = some .directory := by decide
  have beneath : (["documentacao-x"], Node.directory) ∈ folderTest.tree.beneath ["p"] := by decide
  have listed : ⟨["documentacao-x"], .directory⟩ ∈ folderTest.listing s.root := by
    rw [rooted]
    exact Scanner.mem_listing_of_mem_beneath (lookup_longRoot directory) beneath
  have reached := walks _ listed
  rw [outOfReach_longRoot rooted beneath] at reached
  exact absurd reached (by decide)

theorem exists_isAddition_soleTest :
    ∃ c compiled, IsAddition noTest longRoot ["tests", "x.lnegc"] soleTest c compiled ∧
      ¬ ∃ compiled', (c.compile soleTest).result = .ok compiled' := by
  refine exists_isAddition_longRoot (Workspace.addsFile_place (by decide) (by decide)) (by decide)
    fun s rooted passes _ => ?_
  exact exists_selected_longRoot directory_soleTest rooted passes (by decide)

/-- A document added may change the prompts of a category that does not hold it, if a link leads to
it, and may make a compilation fail, if its path is too long, or if that of a new folder is. -/
theorem compile_addDocument_link_or_long :
    (∃ c compiled compiled',
      IsAddition danglingLink ⟨"/p"⟩ ["tests", "y.lnegc"] linkedTest c compiled ∧
      Category.component.holds
        (c.scanner.documentAt ⟨["tests", "y.lnegc"], .file .empty⟩).relative = false ∧
      (c.compile linkedTest).result = .ok compiled' ∧
      compiled'.2.of .component ≠ compiled.2.of .component) ∧
    (∃ c compiled, IsAddition noTest longRoot ["tests", "x.lnegc"] soleTest c compiled ∧
      ¬ ∃ compiled', (c.compile soleTest).result = .ok compiled') ∧
    ∃ c compiled,
      IsAddition noTest longRoot ["documentacao-x", "x.lnegc"] folderTest c compiled ∧
      ¬ ∃ compiled', (c.compile folderTest).result = .ok compiled' :=
  ⟨exists_isAddition_linkedTest, exists_isAddition_soleTest, exists_isAddition_folderTest⟩

end SpecPrompt
