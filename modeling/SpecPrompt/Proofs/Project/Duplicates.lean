import Mathlib.Data.List.Induction
import SpecPrompt.Proofs.Project.Verdict

/-!
# Documents of one name

In each category every name that occurs among the documents gets one prompt, in the place of the
first document of the name. The policy only decides which document the prompt shows.

## Main result

`compile_prompts`: the prompts of a successful compilation, name by name, and the number of
documents it reports as redefined.
-/

namespace SpecPrompt

/-! ### Which document stays -/

/-- The names of some documents, each where it first occurs. -/
def distinctNames (documents : List NamedDocument) : List String :=
  (documents.map NamedDocument.name).eraseDups

/-- The document that stays under a name: the last one, or the first one. -/
def keeper (policy : DuplicatePolicy) (documents : List NamedDocument) (name : String) :
    Option NamedDocument :=
  match policy with
  | .lastWins => documents.reverse.find? fun d => d.name = name
  | .firstWins => documents.find? fun d => d.name = name

variable {policy : DuplicatePolicy} {documents : List NamedDocument} {added d : NamedDocument}
  {name : String}

theorem mem_distinctNames : name ∈ distinctNames documents ↔ ∃ d ∈ documents, d.name = name := by
  rw [distinctNames, List.mem_eraseDups, List.mem_map]

theorem distinctNames_append_singleton :
    distinctNames (documents ++ [added]) =
      if added.name ∈ distinctNames documents then distinctNames documents
      else distinctNames documents ++ [added.name] := by
  rw [distinctNames, List.map_append, List.eraseDups_append, distinctNames]
  simp only [List.map_cons, List.map_nil, List.mem_eraseDups, List.cons_removeAll,
    List.nil_removeAll]
  split <;> simp_all [List.eraseDups_cons]

theorem of_keeper_eq_some (h : keeper policy documents name = some d) :
    d ∈ documents ∧ d.name = name := by
  cases policy with
  | lastWins =>
    exact ⟨List.mem_reverse.mp (List.mem_of_find?_eq_some h), by simpa using List.find?_some h⟩
  | firstWins => exact ⟨List.mem_of_find?_eq_some h, by simpa using List.find?_some h⟩

theorem keeper_append_of_ne (h : added.name ≠ name) :
    keeper policy (documents ++ [added]) name = keeper policy documents name := by
  cases policy <;> simp [keeper, h]

theorem keeper_append_lastWins :
    keeper .lastWins (documents ++ [added]) added.name = some added := by
  simp [keeper]

theorem keeper_append_firstWins (h : keeper .firstWins documents name = some d) :
    keeper .firstWins (documents ++ [added]) name = some d := by
  rw [keeper] at h ⊢
  rw [List.find?_append, h]
  rfl

/-- A document with a new name stays, whatever the policy. -/
theorem keeper_append_of_not_mem (h : added.name ∉ distinctNames documents) :
    keeper policy (documents ++ [added]) added.name = some added := by
  cases policy with
  | lastWins => exact keeper_append_lastWins
  | firstWins =>
    have none : documents.find? (fun d => d.name = added.name) = none := by
      rw [List.find?_eq_none]
      intro d listed
      have apart : d.name ≠ added.name := fun same => h (mem_distinctNames.mpr ⟨d, listed, same⟩)
      simpa using apart
    rw [keeper, List.find?_append, none]
    simp

private theorem map_name_of_forall₂ {names : List String} {kept : List NamedDocument}
    (h : List.Forall₂ (fun name d => keeper policy documents name = some d) names kept) :
    kept.map NamedDocument.name = names := by
  induction h with
  | nil => rfl
  | cons stays _ ih => rw [List.map_cons, ih, (of_keeper_eq_some stays).2]

/-- The documents kept are those that stay under the names, in the order of the names. -/
theorem forall₂_keeper (policy : DuplicatePolicy) (documents : List NamedDocument) :
    List.Forall₂ (fun name d => keeper policy documents name = some d)
      (distinctNames documents) (documents.foldl (addDocument policy) []) := by
  -- Documents are added at the end, so the induction takes the last one off.
  induction documents using List.reverseRecOn with
  | nil => exact .nil
  | append_singleton documents added ih =>
    rw [List.foldl_append, List.foldl_cons, List.foldl_nil, distinctNames_append_singleton]
    generalize documents.foldl (addDocument policy) [] = kept at ih ⊢
    have taken : (kept.any fun k => k.name = added.name) ↔
        added.name ∈ distinctNames documents := by
      rw [← map_name_of_forall₂ ih]
      simp
    unfold addDocument
    simp only [taken]
    split
    -- The name has its place already; only the document under it may change.
    next known =>
      cases policy with
      | lastWins =>
        rw [List.forall₂_map_right_iff]
        refine ih.imp fun name d stays => ?_
        obtain ⟨_, rfl⟩ := of_keeper_eq_some stays
        split
        next same => rw [same, keeper_append_lastWins]
        next apart => rw [keeper_append_of_ne (Ne.symm apart), stays]
      | firstWins => exact ih.imp fun name d stays => keeper_append_firstWins stays
    -- The name comes last, and no other name's document changes.
    next unknown =>
      refine List.rel_append (ih.imp fun name d stays => ?_) (.cons ?_ .nil)
      · obtain ⟨listed, rfl⟩ := of_keeper_eq_some stays
        have apart : added.name ≠ d.name := fun same =>
          unknown (mem_distinctNames.mpr ⟨d, listed, same.symm⟩)
        rw [keeper_append_of_ne apart, stays]
      · exact keeper_append_of_not_mem unknown

theorem length_addDocument (policy : DuplicatePolicy) (kept : List NamedDocument)
    (added : NamedDocument) :
    (addDocument policy kept added).length =
      if kept.any fun k => k.name = added.name then kept.length else kept.length + 1 := by
  unfold addDocument
  split
  · cases policy <;> simp
  · simp

/-! ### Reports of documents redefined -/

/-- Whether an event reports that a document of the category is redefined. -/
def Event.redefines (category : Category) : Event → Bool
  | .documentReplaced other _ _ | .documentDropped other _ _ => other = category
  | _ => false

section Runs

open Outcome

variable {c : Compiler} {w : Workspace} {category : Category}

theorem avoids_readDocument (path : Path) :
    Avoids (·.redefines category) (w.readDocument path) := by
  refine avoids_bind (avoids_report rfl) fun _ => ?_
  split
  · exact avoids_fail _
  · refine avoids_bind (avoids_ofAccess _ _) fun text => ?_
    exact avoids_bind (avoids_report rfl) fun _ => avoids_pure _

theorem avoids_locateConfiguration (root : Path) :
    Avoids (·.redefines category) (w.locateConfiguration root) := by
  refine avoids_bind (avoids_bind (avoids_ofAccess _ _) fun _ => avoids_pure _) fun places => ?_
  split
  · exact avoids_fail _
  · exact avoids_bind (avoids_report rfl) fun _ => avoids_pure _

theorem avoids_languageFrom (path : Path) :
    Avoids (·.redefines category) (c.languageFrom w path) := by
  refine avoids_bind (avoids_readDocument path) fun document => ?_
  refine avoids_bind ?_ fun language => avoids_bind (avoids_report rfl) fun _ => avoids_pure _
  rw [LanguageChoice.resolve]
  split
  · exact avoids_bind (avoids_pure _) fun _ => avoids_pure _
  · exact avoids_bind (avoids_report rfl) fun _ => avoids_pure _

theorem avoids_scan (s : Scanner) : Avoids (·.redefines category) (s.scan w) := by
  have accept (path : Path) (relative : String) :
      Avoids (·.redefines category) (s.accept path relative) := by
    unfold Scanner.accept
    split
    · exact avoids_pure _
    · split
      · exact avoids_bind (avoids_report rfl) fun _ => avoids_pure _
      · exact avoids_pure _
  have classify (found : Found) : Avoids (·.redefines category) (s.classify w found) := by
    unfold Scanner.classify
    split
    · refine avoids_bind ?_ fun _ => avoids_pure _
      unfold Scanner.enter
      split
      · exact avoids_pure _
      · exact avoids_fail _
    · exact accept _ _
    · dsimp only
      split
      · exact accept _ _
      · exact avoids_bind (avoids_report rfl) fun _ => avoids_pure _
  -- What is left are the reports of the scan itself, and none of them is about duplicates.
  unfold Scanner.scan
  split
  · exact avoids_fail _
  · refine avoids_bind (avoids_report rfl) fun _ => ?_
    refine avoids_bind (avoids_mapM fun found _ => classify found) fun files => ?_
    exact avoids_bind (avoids_report rfl) fun _ => avoids_pure _

theorem avoids_renderPrompt (other : Category) (language : String) (document : Document) :
    Avoids (·.redefines category) (c.renderPrompt other language document) := by
  unfold Compiler.renderPrompt
  dsimp only
  split
  · exact avoids_fail _
  · exact avoids_bind (avoids_report rfl) fun _ => avoids_pure _

/-- Adding a file either lengthens the list or reports a document redefined. -/
theorem addFile_eq_ok {kept result : List NamedDocument} {file : DocumentFile}
    (h : (c.addFile w category kept file).result = .ok result) :
    ∃ document, (w.readDocument file.path).result = .ok document ∧
      result = addDocument c.settings.duplicates kept
        ⟨displayName document category, document⟩ ∧
      (c.addFile w category kept file).events.countP (·.redefines category) + result.length =
        kept.length + 1 := by
  unfold Compiler.addFile at h ⊢
  obtain ⟨document, read, h⟩ := bind_eq_ok_iff.mp h
  have same := Except.ok.inj h
  refine ⟨document, read, same.symm, ?_⟩
  rw [events_bind_of_ok read, List.countP_append, countP_eq_zero_of_avoids (avoids_readDocument _)]
  dsimp only at same ⊢
  rw [← same, length_addDocument]
  change 0 + List.countP _ [_] + _ = _
  -- The report and the list look at the same condition.
  split
  next known =>
    rw [List.countP_singleton, if_pos]
    · omega
    · cases c.settings.duplicates <;> simp [Event.redefines]
  next unknown =>
    rw [List.countP_singleton, if_neg]
    · omega
    · simp [Event.redefines]

/-- A file reads as a document, which has its name in the category. -/
structure ReadAs (w : Workspace) (category : Category) (file : DocumentFile) (d : NamedDocument) :
    Prop where
  read : (w.readDocument file.path).result = .ok d.document
  name_eq : d.name = displayName d.document category

/-- Adding files one after the other keeps what adding their documents keeps, and every file that
does not lengthen the list is reported. -/
theorem foldlM_addFile_eq_ok {files : List DocumentFile} {kept result : List NamedDocument}
    (h : (files.foldlM (c.addFile w category) kept).result = .ok result) :
    ∃ documents, List.Forall₂ (ReadAs w category) files documents ∧
      result = documents.foldl (addDocument c.settings.duplicates) kept ∧
      (files.foldlM (c.addFile w category) kept).events.countP (·.redefines category) +
        result.length = kept.length + files.length := by
  induction files generalizing kept with
  | nil =>
    obtain rfl := Except.ok.inj h
    exact ⟨[], .nil, rfl, Nat.add_comm _ _⟩
  | cons file files ih =>
    rw [List.foldlM_cons] at h ⊢
    obtain ⟨next, first, h⟩ := bind_eq_ok_iff.mp h
    obtain ⟨document, read, rfl, counted⟩ := addFile_eq_ok first
    obtain ⟨documents, reads, rfl, later⟩ := ih h
    refine ⟨⟨_, document⟩ :: documents, .cons ⟨read, rfl⟩ reads, rfl, ?_⟩
    rw [events_bind_of_ok first, List.countP_append, List.length_cons]
    omega

private theorem forall₂_trans {α β γ : Type} {R : α → β → Prop} {S : β → γ → Prop} {l : List α}
    {l' : List β} {l'' : List γ} (first : List.Forall₂ R l l') (later : List.Forall₂ S l' l'') :
    List.Forall₂ (fun a c => ∃ b, R a b ∧ S b c) l l'' := by
  induction first generalizing l'' with
  | nil =>
    cases later
    exact .nil
  | cons step _ ih =>
    cases later with
    | cons step' later => exact .cons ⟨_, step, step'⟩ (ih later)

/-- A prompt under a name is the rendering of the document that stays under it. -/
def PromptFor (c : Compiler) (category : Category) (language : String) (policy : DuplicatePolicy)
    (documents : List NamedDocument) (name prompt : String) : Prop :=
  ∃ d, keeper policy documents name = some d ∧
    (c.renderPrompt category language d.document).result = .ok prompt

theorem compileCategory_eq_ok {language : String} {files : List DocumentFile}
    {compiled : Category × List String}
    (h : (c.compileCategory w language files category).result = .ok compiled) :
    compiled.1 = category ∧
    ∃ documents,
      List.Forall₂ (ReadAs w category) (files.filter fun file => category.holds file.relative)
        documents ∧
      List.Forall₂ (PromptFor c category language c.settings.duplicates documents)
        (distinctNames documents) compiled.2 ∧
      (c.compileCategory w language files category).events.countP (·.redefines category) +
        compiled.2.length = (files.filter fun file => category.holds file.relative).length := by
  unfold Compiler.compileCategory at h ⊢
  dsimp only at h ⊢
  obtain ⟨kept, added, h⟩ := bind_eq_ok_iff.mp h
  obtain ⟨prompts, rendered, h⟩ := bind_eq_ok_iff.mp h
  obtain rfl := Except.ok.inj h
  obtain ⟨documents, reads, rfl, counted⟩ := foldlM_addFile_eq_ok added
  have shown := mapM_result_eq_ok_iff.mp rendered
  refine ⟨rfl, documents, reads, forall₂_trans (forall₂_keeper _ documents) shown, ?_⟩
  have shows (d : NamedDocument) :
      Avoids (·.redefines category) (c.renderPrompt category language d.document) :=
    avoids_renderPrompt category language d.document
  have quiet (documents : List NamedDocument) :
      (documents.mapM fun d => c.renderPrompt category language d.document).events.countP
        (·.redefines category) = 0 :=
    countP_eq_zero_of_avoids (avoids_mapM fun d _ => shows d)
  rw [events_bind_of_ok added, events_bind_of_ok rendered, List.countP_append, List.countP_append,
    quiet]
  have last : List.countP (Event.redefines category)
      [Event.categoryCompiled category prompts.length] = 0 := rfl
  change _ + (0 + List.countP _ [_]) + _ = _
  rw [last, ← shown.length_eq]
  simpa using counted

theorem avoids_compileCategory {other : Category} (apart : other ≠ category) (language : String)
    (files : List DocumentFile) :
    Avoids (·.redefines category) (c.compileCategory w language files other) := by
  refine avoids_bind (avoids_foldlM (fun kept file _ => ?_) []) fun documents => ?_
  · refine avoids_bind (avoids_readDocument file.path) fun document => ?_
    refine avoids_bind (avoids_report ?_) fun _ => avoids_pure _
    split
    · cases c.settings.duplicates <;> simpa [Event.redefines] using apart
    · rfl
  · refine avoids_bind (avoids_mapM fun d _ => avoids_renderPrompt other language d.document)
      fun prompts => ?_
    exact avoids_bind (avoids_report rfl) fun _ => avoids_pure _

/-- In a list of results under their categories, the category's own result is found. -/
private theorem lookup_of_forall₂ (category : Category)
    {f : Category → Outcome (Category × List String)}
    (keyed : ∀ other compiled, (f other).result = .ok compiled → compiled.1 = other)
    {l : List Category} {results : List (Category × List String)}
    (h : List.Forall₂ (fun other compiled => (f other).result = .ok compiled) l results)
    (listed : category ∈ l) :
    ∃ prompts, results.lookup category = some prompts ∧
      (f category).result = .ok (category, prompts) := by
  induction h with
  | nil => cases listed
  | @cons other compiled l results first _ ih =>
    obtain ⟨key, prompts⟩ := compiled
    obtain rfl : key = other := keyed _ _ first
    by_cases same : category = key
    · subst same
      exact ⟨prompts, by simp [List.lookup], first⟩
    · have later := ih ((List.mem_cons.mp listed).resolve_left same)
      rw [List.lookup_cons, beq_false_of_ne same]
      exact later

/-- Only the category's own compilation reports its documents redefined. -/
private theorem countP_compileCategories {language : String} {files : List DocumentFile}
    {results : List (Category × List String)}
    (h : (Category.all.mapM (c.compileCategory w language files)).result = .ok results)
    (category : Category) :
    (Category.all.mapM (c.compileCategory w language files)).events.countP
        (·.redefines category) =
      (c.compileCategory w language files category).events.countP (·.redefines category) := by
  -- The categories follow one another, and three of the four counts are zero.
  have others (other : Category) (apart : other ≠ category) :
      (c.compileCategory w language files other).events.countP (·.redefines category) = 0 :=
    countP_eq_zero_of_avoids (avoids_compileCategory apart language files)
  rw [events_mapM h]
  simp only [Category.all, List.flatMap_cons, List.flatMap_nil, List.countP_append]
  cases category <;> simp [others]

end Runs

/-! ### Compiling -/

namespace Compiler

/-- The compiler with another policy for documents of one name. -/
def withPolicy (c : Compiler) (policy : DuplicatePolicy) : Compiler :=
  { c with settings := { c.settings with duplicates := policy } }

/-- The files that a compilation selects for a category, in the order of the scan. -/
def selected (c : Compiler) (w : Workspace) (category : Category) :
    Except Failure (List DocumentFile) := do
  let configuration ← (w.locateConfiguration c.settings.root).result
  let files ← (c.scanner.scan w).result
  .ok ((files.filter fun file => !file.path.sameAs configuration).filter fun file =>
    category.holds file.relative)

end Compiler

open Outcome

variable {c : Compiler} {w : Workspace} {category : Category}

/-- The prompts of a successful compilation show the documents that stay. -/
theorem Compiler.prompts_of_compile {language : String} {prompts : Prompts}
    (h : (c.compile w).result = .ok (language, prompts)) (category : Category) :
    ∃ files documents, c.selected w category = .ok files ∧
      List.Forall₂ (ReadAs w category) files documents ∧
      List.Forall₂ (PromptFor c category language c.settings.duplicates documents)
        (distinctNames documents) (prompts.of category) ∧
      (c.compile w).events.countP (·.redefines category) + (prompts.of category).length =
        files.length := by
  unfold Compiler.compile Compiler.compileWith at h ⊢
  obtain ⟨configuration, located, h⟩ := bind_eq_ok_iff.mp h
  obtain ⟨chosen, stated, h⟩ := bind_eq_ok_iff.mp h
  obtain ⟨scanned, found, h⟩ := bind_eq_ok_iff.mp h
  obtain ⟨compiled, results, h⟩ := bind_eq_ok_iff.mp h
  obtain ⟨rfl, rfl⟩ := Prod.mk.inj (Except.ok.inj h)
  obtain ⟨own, looked, compiling⟩ := lookup_of_forall₂ category
    (fun other compiled h => (compileCategory_eq_ok h).1) (mapM_result_eq_ok_iff.mp results)
    (by cases category <;> decide)
  obtain ⟨-, documents, reads, shown, counted⟩ := compileCategory_eq_ok compiling
  refine ⟨_, documents, ?_, reads, ?_, ?_⟩
  · rw [Compiler.selected, located, found]
    rfl
  · rw [Prompts.of, looked]
    exact shown
  -- Neither the configuration nor the scan reports a document redefined.
  · rw [events_bind_of_ok located, events_bind_of_ok stated, events_bind_of_ok found,
      events_bind_of_ok results]
    simp only [List.countP_append]
    rw [countP_eq_zero_of_avoids (avoids_locateConfiguration _),
      countP_eq_zero_of_avoids (avoids_languageFrom _),
      countP_eq_zero_of_avoids (avoids_scan _), countP_compileCategories results, Prompts.of,
      looked]
    change 0 + (0 + (0 + (_ + 0))) + own.length = _
    rw [Nat.zero_add, Nat.zero_add, Nat.zero_add, Nat.add_zero]
    exact counted

/-- A file reads as one document only. -/
theorem eq_of_forall₂_readAs {files : List DocumentFile} {documents others : List NamedDocument}
    (h : List.Forall₂ (ReadAs w category) files documents)
    (h' : List.Forall₂ (ReadAs w category) files others) : documents = others := by
  induction h generalizing others with
  | nil =>
    cases h'
    rfl
  | @cons file d files documents reads _ ih =>
    cases h' with
    | @cons _ d' _ others reads' later =>
      have document : d.document = d'.document :=
        Except.ok.inj (reads.read.symm.trans reads'.read)
      have name : d.name = d'.name := by rw [reads.name_eq, reads'.name_eq, document]
      obtain ⟨_, _⟩ := d
      obtain ⟨_, _⟩ := d'
      obtain rfl := document
      obtain rfl := name
      rw [ih later]

/-! ### Two tests of one name -/

/-- How many files a compilation selects, found without sorting them. -/
def countSelected (c : Compiler) (w : Workspace) (category : Category) : Nat :=
  match (w.locateConfiguration c.settings.root).result with
  | .error _ => 0
  | .ok configuration => ((w.listing c.scanner.root).filter (c.scanner.accepts w)).countP
      fun found =>
        let file := c.scanner.documentAt found
        category.holds file.relative && !file.path.sameAs configuration

theorem length_of_selected {files : List DocumentFile}
    (h : c.selected w category = .ok files) : files.length = countSelected c w category := by
  unfold Compiler.selected at h
  obtain ⟨configuration, located, h⟩ := except_bind_eq_ok_iff.mp h
  obtain ⟨scanned, found, h⟩ := except_bind_eq_ok_iff.mp h
  obtain rfl := Except.ok.inj h
  obtain ⟨-, rfl⟩ := Scanner.scan_eq_ok_iff.mp found
  -- Sorting changes only the order of what is counted.
  rw [countSelected, located, Scanner.accepted, List.filter_filter,
    ← List.countP_eq_length_filter, (List.mergeSort_perm _ _).countP_eq, List.countP_map]
  rfl

private theorem exists_compiled_twoTests :
    ∃ c compiled, (Compiler.prepare twoTests (settingsAt ⟨"/p"⟩)).result = .ok c ∧
      (c.compile twoTests).result = .ok compiled ∧ countSelected c twoTests .test = 2 := by
  obtain ⟨c, prepared, sound⟩ := exists_prepared_twoTests
  have standard := templates_of_prepare prepared (templates_settingsAt _)
  obtain ⟨places, candidates⟩ :=
    Compiler.configurationCandidates_of_ne twoTests (Compiler.root_ne_of_prepare prepared)
  obtain ⟨compiled, succeeds⟩ := Compiler.exists_compile_of_isSound standard candidates sound
  have evaluated : (match (Compiler.prepare twoTests (settingsAt ⟨"/p"⟩)).result with
      | .error _ => false
      | .ok c => countSelected c twoTests .test == 2) = true := by decide +kernel
  rw [prepared] at evaluated
  exact ⟨c, compiled, prepared, succeeds, beq_iff_eq.mp evaluated⟩

/-! ### Compiling -/

/-- The prompts of a successful compilation, name by name. Which names there are and in which order
does not depend on the policy. -/
theorem compile_prompts {compiled : String × Prompts} (h : (c.compile w).result = .ok compiled)
    (category : Category) :
    ∃ files documents, c.selected w category = .ok files ∧
      List.Forall₂ (ReadAs w category) files documents ∧
      ∀ policy language prompts,
        ((c.withPolicy policy).compile w).result = .ok (language, prompts) →
          List.Forall₂ (PromptFor c category language policy documents)
            (distinctNames documents) (prompts.of category) ∧
          ((c.withPolicy policy).compile w).events.countP (·.redefines category) +
            (prompts.of category).length = files.length := by
  obtain ⟨_, _⟩ := compiled
  obtain ⟨files, documents, listed, reads, _⟩ := Compiler.prompts_of_compile h category
  refine ⟨files, documents, listed, reads, fun policy language prompts succeeds => ?_⟩
  obtain ⟨files', documents', listed', reads', shown, counted⟩ :=
    Compiler.prompts_of_compile succeeds category
  have same : (c.withPolicy policy).selected w category = c.selected w category := rfl
  obtain rfl : files = files' := by
    rw [same, listed] at listed'
    exact Except.ok.inj listed'
  obtain rfl := eq_of_forall₂_readAs reads reads'
  exact ⟨shown, counted⟩

theorem compile_prompts_twoTests :
    ∃ c compiled files documents,
      (Compiler.prepare twoTests (settingsAt ⟨"/p"⟩)).result = .ok c ∧
      (c.compile twoTests).result = .ok compiled ∧
      c.selected twoTests .test = .ok files ∧ files.length = 2 ∧
      List.Forall₂ (ReadAs twoTests .test) files documents ∧
      ∀ policy language prompts,
        ((c.withPolicy policy).compile twoTests).result = .ok (language, prompts) →
          List.Forall₂ (PromptFor c .test language policy documents)
            (distinctNames documents) (prompts.of .test) ∧
          ((c.withPolicy policy).compile twoTests).events.countP (·.redefines .test) +
            (prompts.of .test).length = 2 := by
  obtain ⟨c, compiled, prepared, succeeds, count⟩ := exists_compiled_twoTests
  obtain ⟨files, documents, listed, reads, shown⟩ := compile_prompts succeeds .test
  have two : files.length = 2 := (length_of_selected listed).trans count
  rw [two] at shown
  exact ⟨c, compiled, files, documents, prepared, succeeds, listed, two, reads, shown⟩

end SpecPrompt
