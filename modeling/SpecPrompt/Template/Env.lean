import SpecPrompt.Template.Value

/-!
# Variables

A template reads variables by dotted names. It is handed some of them, sets others itself, and
inside a loop sees the item of the current pass.
-/

namespace SpecPrompt.Template

/-- A dotted variable name. -/
structure Reference where
  segments : List String
  deriving DecidableEq, Repr

/-- The variable as written. -/
def Reference.name (v : Reference) : String :=
  ".".intercalate v.segments

/-- The current pass through a loop. -/
structure LoopPass where
  /-- The name of the loop's variable. -/
  bound : String
  item : Value
  /-- How many passes came before. -/
  index : Nat
  /-- How many passes there are. -/
  count : Nat

/-- The variables set in one scope: outside all loops, or in one pass through a loop. -/
structure Scope where
  assigned : List (String × Value)
  pass : Option LoopPass

/-- The variables that a template sees. -/
structure Env where
  /-- The open scopes, the innermost first. -/
  scopes : List Scope
  /-- The variables handed to the template. -/
  globals : List (String × Value)

/-- The value of a variable among `named`. -/
def lookupIn (named : List (String × Value)) (v : Reference) : Option Value :=
  match v.segments with
  | [] => none
  | first :: rest => (named.lookup first).bind fun value => value.at? rest

/-- The value of a variable that a loop defines. Names under `loop` tell of the pass and nothing
else, also if the loop's own variable has that name. -/
def LoopPass.lookup (pass : LoopPass) (v : Reference) : Option Value :=
  match v.segments with
  | "loop" :: rest =>
    match rest with
    | ["index"] => some (.number (pass.index + 1))
    | ["index0"] => some (.number pass.index)
    | ["first"] => some (.bool (pass.index = 0))
    | ["last"] => some (.bool (pass.index + 1 = pass.count))
    | _ => none
  | _ => lookupIn [(pass.bound, pass.item)] v

/-- The value of a variable in one scope. -/
def Scope.lookup (scope : Scope) (v : Reference) : Option Value :=
  (lookupIn scope.assigned v).or (scope.pass.bind fun pass => pass.lookup v)

namespace Env

/-- The environment in which a template starts. -/
def ofGlobals (globals : List (String × Value)) : Env :=
  ⟨[⟨[], none⟩], globals⟩

/-- The value of a variable: the innermost scope that knows it counts. -/
def lookup (env : Env) (v : Reference) : Option Value :=
  (env.scopes.findSome? fun scope => scope.lookup v).or (lookupIn env.globals v)

/-- The environment with a variable set in the innermost scope. -/
def assign (env : Env) (name : String) (value : Value) : Env :=
  match env.scopes with
  | [] => env
  | scope :: outer =>
    { env with scopes := { scope with assigned := (name, value) :: scope.assigned } :: outer }

/-- The environment of one pass through a loop. -/
def enter (env : Env) (pass : LoopPass) : Env :=
  { env with scopes := ⟨[], some pass⟩ :: env.scopes }

end Env

end SpecPrompt.Template
