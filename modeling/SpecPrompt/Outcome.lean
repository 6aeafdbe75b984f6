import SpecPrompt.Event
import SpecPrompt.Failure

/-!
# Outcomes

A computation that reads files ends in a result or a failure, and reports events on the way there.
-/

namespace SpecPrompt

/-- A result or a failure, with the events before it in order. -/
structure Outcome (α : Type) where
  events : List Event
  result : Except Failure α

namespace Outcome

variable {α β : Type}

/-- The outcome of a computation followed by another, which a failure of the first one prevents. -/
def andThen (x : Outcome α) (f : α → Outcome β) : Outcome β :=
  match x.result with
  | .error failure => ⟨x.events, .error failure⟩
  | .ok a =>
    let y := f a
    ⟨x.events ++ y.events, y.result⟩

instance : Monad Outcome where
  pure a := ⟨[], .ok a⟩
  bind := andThen

/-- The outcome that is a failure. -/
def fail (failure : Failure) : Outcome α := ⟨[], .error failure⟩

/-- The outcome that only reports an event. -/
def report (event : Event) : Outcome Unit := ⟨[event], .ok ()⟩

/-- A result or failure without events. -/
def ofExcept (result : Except Failure α) : Outcome α := ⟨[], result⟩

/-- A result, or the failure that a fault at `path` amounts to. -/
def ofAccess (path : Path) (result : Except Fault α) : Outcome α :=
  ⟨[], result.mapError (Failure.ofFault path)⟩

theorem result_bind (x : Outcome α) (f : α → Outcome β) :
    (x >>= f).result = x.result >>= fun a => (f a).result := by
  obtain ⟨events, _ | a⟩ := x <;> rfl

theorem result_pure (a : α) : (pure a : Outcome α).result = .ok a := rfl

end Outcome

end SpecPrompt
