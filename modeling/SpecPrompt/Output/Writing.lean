import SpecPrompt.Files.Change
import SpecPrompt.Outcome

/-!
# Computations that change files

Such a computation works on a workspace step by step. What it leaves behind is the whole history:
every change it made, with the workspace after that change.
-/

namespace SpecPrompt

/-- The history of a computation that changes files. -/
structure History (α : Type) where
  /-- The changes in order, each with the workspace after it. -/
  changes : List (Change × Workspace)
  events : List Event
  result : Except Failure α

/-- The workspace at the end of a history that starts from `w`. -/
def History.workspace {α : Type} (h : History α) (w : Workspace) : Workspace :=
  (h.changes.getLast?.map Prod.snd).getD w

/-- A computation that changes the files of a workspace. -/
def Writing (α : Type) : Type :=
  Workspace → History α

namespace Writing

variable {α β : Type}

/-- The history of the computation from `w` on. -/
def run (x : Writing α) (w : Workspace) : History α := x w

/-- A computation followed by another, which a failure of the first one prevents. -/
def andThen (x : Writing α) (f : α → Writing β) : Writing β := fun w =>
  let first := x w
  match first.result with
  | .error failure => ⟨first.changes, first.events, .error failure⟩
  | .ok a =>
    let second := f a (first.workspace w)
    ⟨first.changes ++ second.changes, first.events ++ second.events, second.result⟩

instance : Monad Writing where
  pure a := fun _ => ⟨[], [], .ok a⟩
  bind := andThen

/-- The computation that only looks at files. -/
def ofOutcome (x : Workspace → Outcome α) : Writing α := fun w =>
  ⟨[], (x w).events, (x w).result⟩

/-- The workspace as it is now. -/
def current : Writing Workspace := fun w => ⟨[], [], .ok w⟩

/-- Reports an event. -/
def report (event : Event) : Writing Unit := fun _ => ⟨[], [event], .ok ()⟩

/-- Fails. -/
def fail (failure : Failure) : Writing α := fun _ => ⟨[], [], .error failure⟩

/-- Makes a change if that is possible, and says what prevented it if not. -/
def attempt (change : Change) : Writing (Except Fault Unit) := fun w =>
  match change.apply w with
  | .ok after => ⟨[(change, after)], [], .ok (.ok ())⟩
  | .error fault => ⟨[], [], .ok (.error fault)⟩

/-- Makes a change. A fault counts as one at `path`. -/
def perform (change : Change) (path : Path) : Writing Unit := do
  match ← attempt change with
  | .ok () => pure ()
  | .error fault => fail (.ofFault path fault)

end Writing

end SpecPrompt
