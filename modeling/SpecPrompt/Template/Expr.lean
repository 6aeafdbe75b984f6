import SpecPrompt.Template.Env
import SpecPrompt.Template.Filter

/-!
# Template expressions

Expressions read variables, pass them through filters, and combine them to conditions. An unknown
variable is an error where its value is needed, and counts as false where only its truth is.
-/

namespace SpecPrompt.Template

/-! ### What expressions are made of -/

/-- A question about a variable, such as whether it is a text. -/
structure Test where
  subject : Reference
  /-- Whether the answer is turned round. -/
  negated : Bool
  name : String
  deriving DecidableEq, Repr

/-- What an operand starts from. -/
inductive Atom where
  | reference (v : Reference)
  | text (s : String)
  | number (n : Int)
  | truth (b : Bool)
  | test (t : Test)
  deriving DecidableEq, Repr

mutual

/-- A call of a filter with named arguments. -/
structure FilterCall where
  name : String
  arguments : List (String × Expr)

/-- An atom passed through filters. -/
structure Operand where
  atom : Atom
  filters : List FilterCall

/-- An expression of a template. -/
inductive Expr where
  | operand (o : Operand)
  | negation (o : Operand)
  | equal (a b : Operand)
  /-- The negation of a comparison. -/
  | differ (a b : Operand)
  | both (a b : Expr)

end

/-- The expression that reads a variable. -/
def Expr.reference (segments : List String) : Expr :=
  .operand ⟨.reference ⟨segments⟩, []⟩

/-- Whether a variable holds a text. -/
def Expr.isText (segments : List String) : Expr :=
  .operand ⟨.test ⟨⟨segments⟩, false, "string"⟩, []⟩

/-! ### Atoms -/

/-- Whether a test succeeds. The one test there is asks for a text. -/
def Test.holds (env : Env) (t : Test) : Except RenderFault Bool :=
  if t.name = "string" then
    match env.lookup t.subject with
    | none => .error (.inTest "string" (.undefinedTested "string"))
    | some (.text _) => .ok (!t.negated)
    | some _ => .ok t.negated
  else .error (.unknownTest t.name)

/-- The value of an atom. -/
def Atom.eval (env : Env) : Atom → Except RenderFault Value
  | .reference v =>
    match env.lookup v with
    | some value => .ok value
    | none => .error (.unknownVariable v.name)
  | .text s => .ok (.text s)
  | .number n => .ok (.number n)
  | .truth b => .ok (.bool b)
  | .test t => do .ok (.bool (← t.holds env))

/-- The spelling of an atom in error messages. -/
def Atom.spelling : Atom → String
  | .reference v => "Ident(" ++ Value.quoted v.name ++ ")"
  | .text s => "String(" ++ Value.quoted s ++ ")"
  | .number n => "Int(" ++ toString n ++ ")"
  | .truth b => "Bool(" ++ toString b ++ ")"
  | .test t =>
    "Test(Test \x7b ident: " ++ Value.quoted t.subject.name ++ ", negated: " ++
      toString t.negated ++ ", name: " ++ Value.quoted t.name ++ ", args: [] \x7d)"

/-! ### Values and truth -/

/-- A result met while a filter was called. -/
def withinFilter (filter : String) (result : Except RenderFault α) : Except RenderFault α :=
  result.mapError (.inFilter filter)

/-- The value of a variable, negated after `pass`. An unknown variable and one without a value are
negated as they are. -/
def negatedReference (env : Env) (v : Reference) (pass : Value → Except RenderFault Value) :
    Except RenderFault Value :=
  match env.lookup v with
  | none | some .null => .ok (.bool true)
  | some value => do .ok (.bool !(← pass value).isTruthy)

/-- Whether a result counts as true; a fault does not. -/
def truthOf (result : Except RenderFault Value) : Bool :=
  match result with
  | .ok value => value.isTruthy
  | .error _ => false

mutual

/-- The arguments of a call with their values. -/
def evalArguments (env : Env) :
    List (String × Expr) → Except RenderFault (List (String × Value))
  | [] => .ok []
  | (name, e) :: arguments => do
    let value ← e.eval env
    .ok ((name, value) :: (← evalArguments env arguments))

/-- The value of `value` passed through filters, the first one first. -/
def applyFilters (env : Env) (value : Value) : List FilterCall → Except RenderFault Value
  | [] => .ok value
  | ⟨name, arguments⟩ :: calls =>
    match Filter.named? name with
    | none => .error (.unknownFilter name)
    | some filter => do
      let arguments ← withinFilter name (evalArguments env arguments)
      applyFilters env (← withinFilter name (filter.apply arguments value)) calls

/-- The value of an operand. -/
def Operand.eval (env : Env) : Operand → Except RenderFault Value
  | ⟨atom, calls⟩ => do applyFilters env (← atom.eval env) calls

/-- The value of the negation of an operand. -/
def Operand.evalNegated (env : Env) : Operand → Except RenderFault Value
  | ⟨.reference v, calls⟩ => negatedReference env v fun value => applyFilters env value calls
  | ⟨atom, calls⟩ => do .ok (.bool !(← applyFilters env (← atom.eval env) calls).isTruthy)

/-- Whether an operand counts as true. A literal or a test is judged before its filters, and a fault
in a variable or its filters counts as false. -/
def Operand.holds (env : Env) : Operand → Except RenderFault Bool
  | ⟨.reference v, calls⟩ =>
    .ok (truthOf (do applyFilters env (← Atom.eval env (.reference v)) calls))
  | ⟨atom, _⟩ => do .ok (← atom.eval env).isTruthy

/-- Whether the negation of an operand counts as true. A fault in a variable or its filters counts
as false here too. -/
def Operand.holdsNegated (env : Env) : Operand → Except RenderFault Bool
  | ⟨.reference v, calls⟩ =>
    .ok (truthOf (negatedReference env v fun value => applyFilters env value calls))
  | ⟨atom, _⟩ => do .ok !(← atom.eval env).isTruthy

/-- Whether an expression counts as true. Unrelated values are neither equal nor different. -/
def Expr.holds (env : Env) : Expr → Except RenderFault Bool
  | .operand o => o.holds env
  | .negation o => o.holdsNegated env
  | .equal a b => do .ok ((← a.eval env).likeness (← b.eval env) = .same)
  | .differ a b => do .ok ((← a.eval env).likeness (← b.eval env) = .different)
  | .both a b => do if ← a.holds env then b.holds env else .ok false

/-- The value of an expression. For a negated comparison it is the opposite of its truth. -/
def Expr.eval (env : Env) : Expr → Except RenderFault Value
  | .operand o => o.eval env
  | .negation o => o.evalNegated env
  | .equal a b => do .ok (.bool ((← a.eval env).likeness (← b.eval env) = .same))
  | .differ a b => do .ok (.bool ((← a.eval env).likeness (← b.eval env) ≠ .different))
  | .both a b => do .ok (.bool (← if ← a.holds env then b.holds env else .ok false))

end

end SpecPrompt.Template
