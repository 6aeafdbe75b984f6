import SpecPrompt.Output.Writing

/-!
# Rules for computations that change files

What holds in all states that a computation goes through, and what holds at its end, follows from
what its steps do, one after another.

## Main results

- `meets_bind`: a computation followed by another.
- `meets_attempt`: a single change.
-/

namespace SpecPrompt

namespace History

variable {α : Type}

/-- The states from `w` on: `w` itself and the workspace after each change. -/
def states (h : History α) (w : Workspace) : List Workspace :=
  w :: h.changes.map Prod.snd

theorem workspace_mem_states (h : History α) (w : Workspace) : h.workspace w ∈ h.states w := by
  unfold workspace states
  cases last : h.changes.getLast? with
  | none => simp
  | some entry =>
    have listed := List.mem_map_of_mem (f := Prod.snd) (List.mem_of_getLast? last)
    exact List.mem_cons_of_mem _ listed

end History

namespace Writing

variable {α β : Type}

/-- From `w` on, all states are of one kind; the last one is of another if there is a result, and of
a third if there is a failure. -/
structure Meets (x : Writing α) (w : Workspace) (always : Workspace → Prop)
    (done : α → Workspace → Prop) (failed : Workspace → Prop) : Prop where
  always : ∀ s ∈ (x.run w).states w, always s
  done : ∀ a, (x.run w).result = .ok a → done a ((x.run w).workspace w)
  failed : ∀ failure, (x.run w).result = .error failure → failed ((x.run w).workspace w)

variable {w : Workspace} {always always' failed failed' : Workspace → Prop}
  {done : α → Workspace → Prop}

theorem Meets.mono {done' : α → Workspace → Prop} {x : Writing α}
    (h : x.Meets w always done failed)
    (all : ∀ s, always s → always' s) (end_ok : ∀ a s, done a s → done' a s)
    (end_error : ∀ s, failed s → failed' s) : x.Meets w always' done' failed' where
  always s reached := all s (h.always s reached)
  done a result := end_ok a _ (h.done a result)
  failed failure result := end_error _ (h.failed failure result)

/-! ### Computations without changes -/

theorem meets_of_unchanged {x : Writing α} (unchanged : (x.run w).changes = []) (start : always w)
    (ends : ∀ a, (x.run w).result = .ok a → done a w)
    (ends' : ∀ failure, (x.run w).result = .error failure → failed w) :
    x.Meets w always done failed := by
  have stays : (x.run w).workspace w = w := by
    rw [History.workspace, unchanged]
    rfl
  constructor
  · intro s reached
    rw [History.states, unchanged] at reached
    rwa [List.mem_singleton.mp reached]
  · rwa [stays]
  · rwa [stays]

theorem meets_pure {a : α} (start : always w) (ends : done a w) :
    (pure a : Writing α).Meets w always done failed := by
  refine meets_of_unchanged rfl start (fun b result => ?_) nofun
  rwa [← Except.ok.inj result]

theorem meets_fail {failure : Failure} (start : always w) (ends : failed w) :
    (fail failure : Writing α).Meets w always done failed :=
  meets_of_unchanged rfl start nofun fun _ _ => ends

theorem meets_report {done : Unit → Workspace → Prop} {event : Event} (start : always w)
    (ends : done () w) : (report event).Meets w always done failed :=
  meets_of_unchanged rfl start (fun _ _ => ends) nofun

theorem meets_current {done : Workspace → Workspace → Prop} (start : always w) (ends : done w w) :
    current.Meets w always done failed := by
  refine meets_of_unchanged rfl start (fun s result => ?_) nofun
  rwa [← Except.ok.inj result]

theorem meets_ofOutcome {x : Workspace → Outcome α} (start : always w)
    (ends : ∀ a, (x w).result = .ok a → done a w)
    (ends' : ∀ failure, (x w).result = .error failure → failed w) :
    (ofOutcome x).Meets w always done failed :=
  meets_of_unchanged rfl start ends ends'

/-! ### Changes -/

theorem meets_attempt {change : Change} {done : Except Fault Unit → Workspace → Prop}
    (start : always w)
    (changed : ∀ w', change.apply w = .ok w' → always w' ∧ done (.ok ()) w')
    (refused : ∀ fault, change.apply w = .error fault → done (.error fault) w) :
    (attempt change).Meets w always done failed := by
  cases applied : change.apply w with
  | error fault =>
    have run_eq : (attempt change).run w = ⟨[], [], .ok (.error fault)⟩ := by
      rw [run, attempt, applied]
    refine meets_of_unchanged ?_ start ?_ ?_ <;> rw [run_eq]
    · intro a result
      rw [← Except.ok.inj result]
      exact refused fault applied
    · exact nofun
  | ok w' =>
    have run_eq : (attempt change).run w = ⟨[(change, w')], [], .ok (.ok ())⟩ := by
      rw [run, attempt, applied]
    obtain ⟨after, ends⟩ := changed w' applied
    constructor <;> rw [run_eq]
    · intro s reached
      rcases List.mem_cons.mp reached with rfl | later
      · exact start
      · rwa [List.mem_singleton.mp later]
    · intro a result
      rw [← Except.ok.inj result]
      exact ends
    · exact nofun

/-! ### One after another -/

theorem run_bind_of_error {x : Writing α} {failure : Failure}
    (h : (x.run w).result = .error failure) (f : α → Writing β) :
    (x >>= f).run w = ⟨(x.run w).changes, (x.run w).events, .error failure⟩ := by
  change andThen x f w = _
  unfold run at h ⊢
  rw [andThen, h]

theorem run_bind_of_ok {x : Writing α} {a : α} (h : (x.run w).result = .ok a)
    (f : α → Writing β) :
    (x >>= f).run w =
      ⟨(x.run w).changes ++ ((f a).run ((x.run w).workspace w)).changes,
        (x.run w).events ++ ((f a).run ((x.run w).workspace w)).events,
        ((f a).run ((x.run w).workspace w)).result⟩ := by
  change andThen x f w = _
  unfold run at h ⊢
  rw [andThen, h]

theorem pure_bind (a : α) (f : α → Writing β) : (pure a >>= f) = f a := rfl

theorem workspace_append {first : History α} {second : History β} :
    (⟨first.changes ++ second.changes, first.events ++ second.events, second.result⟩ :
        History β).workspace w = second.workspace (first.workspace w) := by
  unfold History.workspace
  rw [List.getLast?_append]
  cases second.changes.getLast? <;> rfl

/-- The first of two computations has to end where the second one can go on. -/
theorem meets_bind {done : β → Workspace → Prop} {x : Writing α} {f : α → Writing β}
    (h : x.Meets w always (fun a w' => (f a).Meets w' always done failed) failed) :
    (x >>= f).Meets w always done failed := by
  cases ended : (x.run w).result with
  | error failure =>
    have run_eq := run_bind_of_error ended f
    constructor <;> rw [run_eq]
    · exact h.always
    · exact nofun
    · intro _ _
      exact h.failed failure ended
  | ok a =>
    have run_eq := run_bind_of_ok ended f
    have rest := h.done a ended
    constructor <;> rw [run_eq]
    · intro s reached
      rw [History.states, List.map_append, ← List.cons_append, List.mem_append] at reached
      -- Where the second one starts is a state of the first one.
      rcases reached with early | late
      · exact h.always s early
      · exact rest.always s (List.mem_cons_of_mem _ late)
    · rw [workspace_append]
      exact rest.done
    · rw [workspace_append]
      exact rest.failed

theorem meets_perform {change : Change} {path : Path} {done : Unit → Workspace → Prop}
    (start : always w) (refused : ∀ fault, change.apply w = .error fault → failed w)
    (changed : ∀ w', change.apply w = .ok w' → always w' ∧ done () w') :
    (perform change path).Meets w always done failed := by
  refine meets_bind (meets_attempt start (fun w' applied => ?_) fun fault stopped => ?_)
  · obtain ⟨after, ends⟩ := changed w' applied
    exact ⟨after, meets_pure after ends⟩
  · exact meets_fail start (refused fault stopped)

/-! ### Properties that stay -/

/-- Whatever happens, a property of the workspace stays. -/
def Preserves (stays : Workspace → Prop) (x : Writing α) : Prop :=
  ∀ w, stays w → x.Meets w stays (fun _ => stays) stays

variable {stays : Workspace → Prop}

theorem preserves_pure (a : α) : Preserves stays (pure a) :=
  fun _ h => meets_pure h h

theorem preserves_fail (failure : Failure) : Preserves stays (fail failure : Writing α) :=
  fun _ h => meets_fail h h

theorem Preserves.bind {x : Writing α} {f : α → Writing β} (first : Preserves stays x)
    (second : ∀ a, Preserves stays (f a)) : Preserves stays (x >>= f) :=
  fun w h => meets_bind ((first w h).mono (fun _ => id) (fun a w' h' => second a w' h') fun _ => id)

theorem preserves_current : Preserves stays current :=
  fun _ h => meets_current h h

theorem preserves_attempt {change : Change}
    (h : ∀ w w', stays w → change.apply w = .ok w' → stays w') :
    Preserves stays (attempt change) :=
  fun w start => meets_attempt start
    (fun w' applied => ⟨h w w' start applied, h w w' start applied⟩) fun _ _ => start

end Writing

end SpecPrompt
