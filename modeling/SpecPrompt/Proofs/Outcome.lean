import Mathlib.Data.List.Forall2
import SpecPrompt.Outcome

/-!
# Laws of outcomes

How the result and the events of a computation come from those of its parts.
-/

namespace SpecPrompt.Outcome

variable {α β : Type}

instance : LawfulMonad Outcome := by
  refine LawfulMonad.mk' _ ?_ ?_ ?_
  · rintro α ⟨events, _ | a⟩
    · rfl
    · simp [Functor.map, andThen]
  · intro α β a f
    simp [bind, andThen, pure]
  · rintro α β γ ⟨events, _ | a⟩ f g
    · rfl
    · simp only [bind, andThen]
      cases (f a).result <;> simp

/-! ### Sequences -/

theorem except_bind_eq_ok_iff {ε : Type} {x : Except ε α} {f : α → Except ε β} {b : β} :
    x >>= f = .ok b ↔ ∃ a, x = .ok a ∧ f a = .ok b := by
  cases x <;> simp [bind, Except.bind]

theorem except_bind_eq_error_iff {ε : Type} {x : Except ε α} {f : α → Except ε β} {e : ε} :
    x >>= f = .error e ↔ x = .error e ∨ ∃ a, x = .ok a ∧ f a = .error e := by
  cases x <;> simp [bind, Except.bind]

theorem mapError_eq_error_iff {ε ε' : Type} {x : Except ε α} {f : ε → ε'} {e : ε'} :
    x.mapError f = .error e ↔ ∃ flaw, x = .error flaw ∧ e = f flaw := by
  cases x <;> simp [Except.mapError, eq_comm]

theorem mapError_eq_ok_iff {ε ε' : Type} {x : Except ε α} {f : ε → ε'} {a : α} :
    x.mapError f = .ok a ↔ x = .ok a := by
  cases x <;> simp [Except.mapError]

/-- If each step on a state is matched by one on what is known of it, so is a sequence of them. -/
theorem map_foldlM {ε γ : Type} {f : β → α → Except ε β} {g : γ → α → Except ε γ} {known : β → γ}
    (step : ∀ b a, (f b a).map known = g (known b) a) (l : List α) (b : β) :
    (l.foldlM f b).map known = l.foldlM g (known b) := by
  induction l generalizing b with
  | nil => rfl
  | cons a l ih =>
    rw [List.foldlM_cons, List.foldlM_cons, ← step]
    cases f b a with
    | error e => rfl
    | ok b' => exact ih b'

/-- A result need not be written down to have a property that can be evaluated. -/
theorem exists_ok_of_decide {ε : Type} {x : Except ε α} {p : α → Prop} [DecidablePred p]
    (h : (match x with | .error _ => false | .ok a => decide (p a)) = true) :
    ∃ a, x = .ok a ∧ p a := by
  cases x with
  | error e => cases h
  | ok a => exact ⟨a, rfl, of_decide_eq_true h⟩

theorem exists_ok_of_isOk {ε : Type} {x : Except ε α} (h : x.isOk = true) : ∃ a, x = .ok a := by
  cases x with
  | error e => cases h
  | ok a => exact ⟨a, rfl⟩

theorem bind_eq_ok_iff {x : Outcome α} {f : α → Outcome β} {b : β} :
    (x >>= f).result = .ok b ↔ ∃ a, x.result = .ok a ∧ (f a).result = .ok b := by
  rw [result_bind, except_bind_eq_ok_iff]

theorem result_bind_of_ok {x : Outcome α} {a : α} (h : x.result = .ok a) (f : α → Outcome β) :
    (x >>= f).result = (f a).result := by
  rw [result_bind, h]
  rfl

theorem result_bind_of_error {x : Outcome α} {failure : Failure} (h : x.result = .error failure)
    (f : α → Outcome β) : (x >>= f).result = .error failure := by
  rw [result_bind, h]
  rfl

theorem events_bind_of_ok {x : Outcome α} {a : α} (h : x.result = .ok a) (f : α → Outcome β) :
    (x >>= f).events = x.events ++ (f a).events := by
  change (andThen x f).events = _
  rw [andThen, h]

theorem mem_events_bind {x : Outcome α} {f : α → Outcome β} {event : Event}
    (h : event ∈ (x >>= f).events) :
    event ∈ x.events ∨ ∃ a, x.result = .ok a ∧ event ∈ (f a).events := by
  change event ∈ (andThen x f).events at h
  unfold andThen at h
  split at h
  · exact .inl h
  next a found => exact (List.mem_append.mp h).imp_right fun later => ⟨a, found, later⟩

/-! ### Computations on the members of a list -/

theorem mapM_eq_ok_iff {ε : Type} {f : α → Except ε β} {l : List α} {l' : List β} :
    l.mapM f = .ok l' ↔ List.Forall₂ (fun a b => f a = .ok b) l l' := by
  induction l generalizing l' with
  | nil =>
    rw [List.forall₂_nil_left_iff]
    exact ⟨fun h => (Except.ok.inj h).symm, fun h => h ▸ rfl⟩
  | cons a l ih =>
    simp only [List.mapM_cons, except_bind_eq_ok_iff, List.forall₂_cons_left_iff, ih]
    constructor
    · rintro ⟨b, first, bs, rest, last⟩
      exact ⟨b, bs, first, rest, (Except.ok.inj last).symm⟩
    · rintro ⟨b, bs, first, rest, rfl⟩
      exact ⟨b, first, bs, rest, rfl⟩

/-- All members have a result of some kind if and only if each one has. -/
theorem exists_mapM_iff {ε : Type} {f : α → Except ε β} {p : β → Prop} {l : List α} :
    (∃ l', l.mapM f = .ok l' ∧ ∀ b ∈ l', p b) ↔ ∀ a ∈ l, ∃ b, f a = .ok b ∧ p b := by
  simp only [mapM_eq_ok_iff]
  induction l with
  | nil => exact iff_of_true ⟨[], .nil, nofun⟩ nofun
  | cons a l ih =>
    rw [List.forall_mem_cons, ← ih]
    constructor
    · rintro ⟨l', all, good⟩
      obtain ⟨b, bs, first, rest, rfl⟩ := List.forall₂_cons_left_iff.mp all
      exact ⟨⟨b, first, good b (by simp)⟩, bs, rest, fun b listed => good b (by simp [listed])⟩
    · rintro ⟨⟨b, first, fine⟩, bs, rest, good⟩
      exact ⟨b :: bs, .cons first rest, List.forall_mem_cons.mpr ⟨fine, good⟩⟩

/-- The first member that is refused decides how the others end. -/
theorem mapM_ite_error {ε : Type} {f : α → Except ε β} {p : α → Bool} {flaw : α → ε} {g : α → β}
    {l : List α} (h : ∀ a ∈ l, f a = if p a then .error (flaw a) else .ok (g a)) :
    l.mapM f = match l.find? p with
      | some a => .error (flaw a)
      | none => .ok (l.map g) := by
  induction l with
  | nil => rfl
  | cons a l ih =>
    rw [List.mapM_cons, h a (by simp), ih fun other listed => h other (by simp [listed]),
      List.find?_cons]
    cases p a with
    | true => rfl
    | false => cases l.find? p <;> rfl

theorem forM_eq_ok_iff {ε : Type} {f : α → Except ε Unit} {l : List α} {u : Unit} :
    l.forM f = .ok u ↔ ∀ a ∈ l, f a = .ok () := by
  induction l with
  | nil => exact iff_of_true rfl nofun
  | cons a l ih =>
    change (f a >>= fun _ => l.forM f) = .ok u ↔ _
    rw [except_bind_eq_ok_iff, List.forall_mem_cons, ← ih]
    exact ⟨fun ⟨_, first, rest⟩ => ⟨first, rest⟩, fun ⟨first, rest⟩ => ⟨(), first, rest⟩⟩

theorem result_mapM (f : α → Outcome β) (l : List α) :
    (l.mapM f).result = l.mapM fun a => (f a).result := by
  induction l with
  | nil => rfl
  | cons a l ih => simp only [List.mapM_cons, result_bind, result_pure, ih]; rfl

theorem mapM_result_eq_ok_iff {f : α → Outcome β} {l : List α} {l' : List β} :
    (l.mapM f).result = .ok l' ↔ List.Forall₂ (fun a b => (f a).result = .ok b) l l' := by
  rw [result_mapM, mapM_eq_ok_iff]

/-- Steps that end in the same results add up to the same result. -/
theorem result_foldlM_congr {f g : β → α → Outcome β} {l : List α}
    (h : ∀ b, ∀ a ∈ l, (f b a).result = (g b a).result) (b : β) :
    (l.foldlM f b).result = (l.foldlM g b).result := by
  induction l generalizing b with
  | nil => rfl
  | cons a l ih =>
    rw [List.foldlM_cons, List.foldlM_cons, result_bind, result_bind, h b a (by simp)]
    exact bind_congr fun b => ih (fun b a listed => h b a (by simp [listed])) b

/-- If every computation succeeds, their events follow each other. -/
theorem events_mapM {f : α → Outcome β} {l : List α} {l' : List β}
    (h : (l.mapM f).result = .ok l') : (l.mapM f).events = l.flatMap fun a => (f a).events := by
  induction l generalizing l' with
  | nil => rfl
  | cons a l ih =>
    rw [List.mapM_cons] at h ⊢
    obtain ⟨b, first, h⟩ := bind_eq_ok_iff.mp h
    obtain ⟨bs, rest, _⟩ := bind_eq_ok_iff.mp h
    rw [events_bind_of_ok first, events_bind_of_ok rest, ih rest, List.flatMap_cons]
    exact congrArg _ (List.append_nil _)

/-! ### Events that do not occur -/

/-- No event of a computation is one of those that `p` holds for. -/
def Avoids (p : Event → Bool) (x : Outcome α) : Prop :=
  ∀ event ∈ x.events, p event = false

variable {p : Event → Bool}

theorem avoids_pure (a : α) : Avoids p (pure a : Outcome α) := nofun

theorem avoids_fail (failure : Failure) : Avoids p (.fail failure : Outcome α) := nofun

theorem avoids_ofAccess (path : Path) (result : Except Fault α) :
    Avoids p (.ofAccess path result) := nofun

theorem avoids_report {event : Event} (h : p event = false) : Avoids p (.report event) := by
  intro other reported
  rw [List.mem_singleton.mp reported]
  exact h

theorem avoids_bind {x : Outcome α} {f : α → Outcome β} (first : Avoids p x)
    (later : ∀ a, Avoids p (f a)) : Avoids p (x >>= f) := by
  intro event occurs
  rcases mem_events_bind occurs with early | ⟨a, _, late⟩
  · exact first event early
  · exact later a event late

theorem avoids_mapM {f : α → Outcome β} {l : List α} (h : ∀ a ∈ l, Avoids p (f a)) :
    Avoids p (l.mapM f) := by
  induction l with
  | nil => exact avoids_pure []
  | cons a l ih =>
    rw [List.mapM_cons]
    refine avoids_bind (h a (by simp)) fun b => ?_
    exact avoids_bind (ih fun other listed => h other (by simp [listed])) fun bs => avoids_pure _

theorem avoids_foldlM {f : β → α → Outcome β} {l : List α} (h : ∀ b, ∀ a ∈ l, Avoids p (f b a))
    (start : β) : Avoids p (l.foldlM f start) := by
  induction l generalizing start with
  | nil => exact avoids_pure start
  | cons a l ih =>
    rw [List.foldlM_cons]
    refine avoids_bind (h start a (by simp)) fun b => ?_
    exact ih (fun b other listed => h b other (by simp [listed])) b

theorem countP_eq_zero_of_avoids {x : Outcome α} (h : Avoids p x) : x.events.countP p = 0 := by
  rw [List.countP_eq_zero]
  intro event occurs
  simp [h event occurs]

/-! ### How computations end -/

/-- A computation fails as stated, or succeeds if no failure is. -/
def EndsIn (x : Outcome α) : Option Failure → Prop
  | some failure => x.result = .error failure
  | none => ∃ a, x.result = .ok a

variable {flaw flaw' : Option Failure}

theorem endsIn_pure (a : α) : EndsIn (pure a) none := ⟨a, rfl⟩

theorem exists_ok_iff_of_endsIn {x : Outcome α} (h : EndsIn x flaw) :
    (∃ a, x.result = .ok a) ↔ flaw = none := by
  cases flaw with
  | none => exact ⟨fun _ => rfl, fun _ => h⟩
  | some failure =>
    refine ⟨?_, nofun⟩
    rintro ⟨a, succeeds⟩
    have fails : x.result = .error failure := h
    rw [fails] at succeeds
    cases succeeds

theorem endsIn_bind_of_ok {x : Outcome α} {a : α} {f : α → Outcome β} (first : x.result = .ok a)
    (rest : EndsIn (f a) flaw) : EndsIn (x >>= f) flaw := by
  unfold EndsIn at rest ⊢
  rwa [result_bind_of_ok first]

theorem endsIn_bind {x : Outcome α} {f : α → Outcome β} (first : EndsIn x flaw)
    (later : ∀ a, x.result = .ok a → EndsIn (f a) flaw') : EndsIn (x >>= f) (flaw.or flaw') := by
  cases flaw with
  | some failure => exact result_bind_of_error first f
  | none =>
    obtain ⟨a, ends⟩ := first
    exact endsIn_bind_of_ok ends (later a ends)

/-- Only the first of two computations can fail. -/
theorem endsIn_bind_of_forall {x : Outcome α} {f : α → Outcome β} (first : EndsIn x flaw)
    (later : ∀ a, EndsIn (f a) none) : EndsIn (x >>= f) flaw := by
  have ends := endsIn_bind first fun a _ => later a
  rwa [Option.or_none] at ends

theorem endsIn_foldlM {f : β → α → Outcome β} {flawOf : α → Option Failure}
    (h : ∀ b a, EndsIn (f b a) (flawOf a)) (l : List α) (start : β) :
    EndsIn (l.foldlM f start) (l.findSome? flawOf) := by
  induction l generalizing start with
  | nil => exact endsIn_pure start
  | cons a l ih =>
    -- A flaw of the first member hides those of the others.
    have step := endsIn_bind (h start a) fun b _ => ih b
    rw [List.foldlM_cons, List.findSome?_cons]
    cases flawed : flawOf a with
    | some failure => rwa [flawed] at step
    | none => rwa [flawed, Option.none_or] at step

theorem endsIn_mapM {f : α → Outcome β} {flawOf : α → Option Failure}
    (h : ∀ a, EndsIn (f a) (flawOf a)) (l : List α) :
    EndsIn (l.mapM f) (l.findSome? flawOf) := by
  induction l with
  | nil => exact endsIn_pure []
  | cons a l ih =>
    -- Putting the first result before the others cannot fail.
    have step := endsIn_bind (h a) fun b _ =>
      endsIn_bind_of_forall ih fun bs => endsIn_pure (b :: bs)
    rw [List.mapM_cons, List.findSome?_cons]
    cases flawed : flawOf a with
    | some failure => rwa [flawed] at step
    | none => rwa [flawed, Option.none_or] at step

end SpecPrompt.Outcome
