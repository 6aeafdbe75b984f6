import SpecPrompt.Proofs.Project.Duplicates

/-!
# The slots of the prompts

Each name among the documents of a category has one slot in the list of the prompts. A document that
is put in among the others opens a slot if its name is new. If the name is known, the document may
take over its slot, or the slot may move to it, but the other slots keep their prompts and their order.

## Main result

`inserts_of_shown`: the prompts with one document more.
-/

namespace SpecPrompt

/-! ### Names with one document more -/

section Names

variable {policy : DuplicatePolicy} {before after documents : List NamedDocument}
  {d : NamedDocument} {name : String}

theorem nodup_distinctNames (documents : List NamedDocument) : (distinctNames documents).Nodup := by
  induction documents using List.reverseRecOn with
  | nil => exact List.nodup_nil
  | append_singleton documents added ih =>
    rw [distinctNames_append_singleton]
    split
    · exact ih
    next new => exact List.nodup_append'.mpr ⟨ih, List.nodup_singleton _, by simpa using new⟩

theorem mem_distinctNames_insert :
    name ∈ distinctNames (before ++ d :: after) ↔
      name = d.name ∨ name ∈ distinctNames (before ++ after) := by
  simp only [mem_distinctNames, List.mem_append, List.mem_cons]
  constructor
  · rintro ⟨d', listed | rfl | listed, rfl⟩
    · exact .inr ⟨d', .inl listed, rfl⟩
    · exact .inl rfl
    · exact .inr ⟨d', .inr listed, rfl⟩
  · rintro (rfl | ⟨d', listed | listed, rfl⟩)
    · exact ⟨d, .inr (.inl rfl), rfl⟩
    · exact ⟨d', .inl listed, rfl⟩
    · exact ⟨d', .inr (.inr listed), rfl⟩

theorem exists_distinctNames_insert (new : d.name ∉ distinctNames (before ++ after)) :
    ∃ later, distinctNames (before ++ after) = distinctNames before ++ later ∧
      distinctNames (before ++ d :: after) = distinctNames before ++ d.name :: later := by
  -- Names are collected from the front, so the last document is the one to take off.
  induction after using List.reverseRecOn with
  | nil =>
    rw [List.append_nil] at new
    exact ⟨[], by simp, by rw [distinctNames_append_singleton, if_neg new]⟩
  | append_singleton after last ih =>
    have apart : last.name ≠ d.name := by
      intro same
      exact new (mem_distinctNames.mpr ⟨last, by simp, same⟩)
    have new' : d.name ∉ distinctNames (before ++ after) := by
      intro known
      obtain ⟨d', listed, same⟩ := mem_distinctNames.mp known
      rw [← List.append_assoc] at new
      exact new (mem_distinctNames.mpr ⟨d', List.mem_append_left _ listed, same⟩)
    obtain ⟨later, without, along⟩ := ih new'
    rw [← List.cons_append, ← List.append_assoc, ← List.append_assoc,
      distinctNames_append_singleton, distinctNames_append_singleton]
    -- The last document has a new name with the added one or without it.
    by_cases known : last.name ∈ distinctNames (before ++ after)
    · rw [if_pos known, if_pos (mem_distinctNames_insert.mpr (.inr known))]
      exact ⟨later, without, along⟩
    · have unknown : last.name ∉ distinctNames (before ++ d :: after) := by
        rw [mem_distinctNames_insert]
        rintro (same | listed)
        · exact apart same
        · exact known listed
      rw [if_neg known, if_neg unknown, without, along]
      exact ⟨later ++ [last.name], by simp, by simp⟩

theorem filter_distinctNames_insert :
    (distinctNames (before ++ d :: after)).filter (· ≠ d.name) =
      (distinctNames (before ++ after)).filter (· ≠ d.name) := by
  induction after using List.reverseRecOn with
  | nil =>
    rw [distinctNames_append_singleton, List.append_nil]
    split
    · rfl
    · simp
  | append_singleton after last ih =>
    rw [← List.cons_append, ← List.append_assoc, ← List.append_assoc,
      distinctNames_append_singleton, distinctNames_append_singleton]
    by_cases same : last.name = d.name
    -- Whether the last document's name is new or not, it is left out.
    · rw [if_pos (mem_distinctNames_insert.mpr (.inl same)), ih]
      split
      · rfl
      · rw [List.filter_append, same]
        simp
    · have known_iff : last.name ∈ distinctNames (before ++ d :: after) ↔
          last.name ∈ distinctNames (before ++ after) := by
        rw [mem_distinctNames_insert, or_iff_right same]
      simp only [known_iff]
      split
      · exact ih
      · rw [List.filter_append, List.filter_append, ih]

theorem length_distinctNames_insert (known : d.name ∈ distinctNames (before ++ after)) :
    (distinctNames (before ++ d :: after)).length = (distinctNames (before ++ after)).length := by
  -- The order of the names may change, but not which names there are.
  apply List.Perm.length_eq
  rw [List.perm_ext_iff_of_nodup (nodup_distinctNames _) (nodup_distinctNames _)]
  intro name
  rw [mem_distinctNames_insert]
  constructor
  · rintro (rfl | listed)
    · exact known
    · exact listed
  · exact .inr

theorem keeper_insert_of_ne (apart : d.name ≠ name) :
    keeper policy (before ++ d :: after) name = keeper policy (before ++ after) name := by
  cases policy <;> simp [keeper, apart]

theorem keeper_insert_self (new : d.name ∉ distinctNames (before ++ after)) :
    keeper policy (before ++ d :: after) d.name = some d := by
  have none : ∀ documents ⊆ before ++ after, documents.find? (fun d' => d'.name = d.name) = none := by
    intro documents within
    rw [List.find?_eq_none]
    intro d' listed
    have apart : d'.name ≠ d.name := fun same =>
      new (mem_distinctNames.mpr ⟨d', within listed, same⟩)
    simpa using apart
  -- Either policy comes upon the new document first, because no other has its name.
  cases policy with
  | lastWins =>
    have later : after.reverse ⊆ before ++ after := by
      intro d' listed
      exact List.mem_append_right _ (List.mem_reverse.mp listed)
    rw [keeper, List.reverse_append, List.reverse_cons, List.append_assoc, List.find?_append,
      none _ later]
    simp
  | firstWins =>
    rw [keeper, List.find?_append, none before (List.subset_append_left _ _)]
    simp

end Names

/-! ### Prompts under names -/

section Prompts

variable {c : Compiler} {category : Category} {language : String} {policy : DuplicatePolicy}
  {documents before after : List NamedDocument} {d : NamedDocument} {name : String}
  {names prompts prompts' : List String}

/-- The prompt for the document that stays under a name. -/
def promptUnder (c : Compiler) (category : Category) (language : String) (policy : DuplicatePolicy)
    (documents : List NamedDocument) (name : String) : String :=
  match keeper policy documents name with
  | none => ""
  | some d => ((c.renderPrompt category language d.document).result.toOption).getD ""

theorem promptUnder_eq {prompt : String}
    (shows : PromptFor c category language policy documents name prompt) :
    promptUnder c category language policy documents name = prompt := by
  obtain ⟨d, stays, rendered⟩ := shows
  rw [promptUnder, stays]
  simp only [rendered]
  rfl

theorem eq_map_promptUnder
    (shown : List.Forall₂ (PromptFor c category language policy documents) names prompts) :
    prompts = names.map (promptUnder c category language policy documents) := by
  induction shown with
  | nil => rfl
  | cons first _ ih => rw [List.map_cons, ← ih, promptUnder_eq first]

theorem promptFor_promptUnder
    (shown : List.Forall₂ (PromptFor c category language policy documents) names prompts)
    (listed : name ∈ names) :
    PromptFor c category language policy documents name
      (promptUnder c category language policy documents name) := by
  induction shown with
  | nil => cases listed
  | cons first _ ih =>
    rcases List.mem_cons.mp listed with rfl | listed
    · rwa [promptUnder_eq first]
    · exact ih listed

theorem promptUnder_insert_of_ne (apart : name ≠ d.name) :
    promptUnder c category language policy (before ++ d :: after) name =
      promptUnder c category language policy (before ++ after) name := by
  rw [promptUnder, keeper_insert_of_ne apart.symm, promptUnder]

/-- What becomes of the prompts of a category when `d` comes between the documents `earlier` and
`later`. -/
structure Inserts (c : Compiler) (category : Category) (language : String)
    (earlier later : List NamedDocument) (d : NamedDocument) (prompts prompts' : List String) : Prop
    where
  /-- A new name gets one prompt more, in the place of the name. -/
  new : d.name ∉ distinctNames (earlier ++ later) →
    ∃ prompt before after, (c.renderPrompt category language d.document).result = .ok prompt ∧
      prompts = before ++ after ∧ prompts' = before ++ prompt :: after ∧
      before.length = (distinctNames earlier).length
  /-- A name that is known gets no other prompt, and the prompts under other names stay. -/
  known : d.name ∈ distinctNames (earlier ++ later) →
    prompts'.length = prompts.length ∧
      ((distinctNames (earlier ++ d :: later)).zip prompts').filter (fun e => e.1 ≠ d.name) =
        ((distinctNames (earlier ++ later)).zip prompts).filter fun e => e.1 ≠ d.name

theorem inserts_of_shown {earlier later : List NamedDocument}
    (shown : List.Forall₂ (PromptFor c category language policy (earlier ++ later))
      (distinctNames (earlier ++ later)) prompts)
    (shown' : List.Forall₂ (PromptFor c category language policy (earlier ++ d :: later))
      (distinctNames (earlier ++ d :: later)) prompts') :
    Inserts c category language earlier later d prompts prompts' where
  new := by
    intro new
    obtain ⟨d', stays, rendered⟩ :=
      promptFor_promptUnder shown' (mem_distinctNames_insert.mpr (.inl rfl))
    -- Nothing else has the name, so it is the new document that stays under it.
    obtain rfl : d = d' := Option.some.inj ((keeper_insert_self new).symm.trans stays)
    obtain ⟨names, without, along⟩ := exists_distinctNames_insert new
    have same : ∀ others ⊆ distinctNames earlier ++ names,
        others.map (promptUnder c category language policy (earlier ++ d :: later)) =
          others.map (promptUnder c category language policy (earlier ++ later)) := by
      intro others within
      apply List.map_congr_left
      intro name listed
      apply promptUnder_insert_of_ne
      rintro rfl
      exact new (without ▸ within listed)
    have all := eq_map_promptUnder shown
    have all' := eq_map_promptUnder shown'
    rw [without, List.map_append] at all
    rw [along, List.map_append, List.map_cons, same _ (List.subset_append_left _ _),
      same _ (List.subset_append_right _ _)] at all'
    exact ⟨_, _, _, rendered, all, all', by rw [List.length_map]⟩
  known := by
    intro known
    constructor
    · rw [← shown.length_eq, ← shown'.length_eq, length_distinctNames_insert known]
    · rw [eq_map_promptUnder shown, eq_map_promptUnder shown', ← List.map_prod_left_eq_zip,
        ← List.map_prod_left_eq_zip, List.filter_map, List.filter_map]
      change ((distinctNames (earlier ++ d :: later)).filter (· ≠ d.name)).map _ =
        ((distinctNames (earlier ++ later)).filter (· ≠ d.name)).map _
      rw [filter_distinctNames_insert]
      apply List.map_congr_left
      intro name listed
      have apart : name ≠ d.name := by simpa using (List.mem_filter.mp listed).2
      rw [promptUnder_insert_of_ne apart]

end Prompts

end SpecPrompt
