import SpecPrompt.Template.Expr
import SpecPrompt.Text.Cluster

/-!
# Rendering

A template is a list of parts. Rendering puts the texts of its parts one after another.
-/

namespace SpecPrompt.Template

/-- One part of a template. -/
inductive Part where
  | text (s : String)
  /-- The value of an expression as text. -/
  | output (e : Expr)
  /-- Sets a variable of the innermost scope. -/
  | assign (name : String) (e : Expr)
  /-- Some parts if a condition holds, other parts if not. -/
  | branch (condition : Expr) (parts otherwise : List Part)
  /-- The body once for each item, or the other parts if there is no item. -/
  | each (bound : String) (items : Operand) (body otherwise : List Part)

/-- The name of what a loop goes through. A loop goes through no literal, whatever its filters. -/
def Atom.loopName : Atom → Except RenderFault String
  | .reference v => .ok v.name
  | atom => .error (.literalLoop atom.spelling)

/-- What the passes through a text see: its clusters in order. There are as many passes as
characters, and those left over see an empty text. -/
def textItems (s : String) : List Value :=
  let clusters := (Chars.clusters s.toList).map String.ofList
  (clusters ++ List.replicate (s.length - clusters.length) "").map .text

/-- What the passes through the value of `name` see. -/
def itemsOf (name : String) : Value → Except RenderFault (List Value)
  | .list items => .ok items
  | .text s => .ok (textItems s)
  | .record _ => .error (.keylessLoop name)
  | _ => .error (.notIterable name)

mutual

/-- The text of a part, with the environment for the parts after it. -/
def Part.render (env : Env) : Part → Except RenderFault (String × Env)
  | .text s => .ok (s, env)
  | .output e => do .ok ((← e.eval env).display, env)
  | .assign name e => do .ok ("", env.assign name (← e.eval env))
  | .branch condition parts otherwise => do
    if ← condition.holds env then renderParts env parts else renderParts env otherwise
  | .each bound items body otherwise => do
    let name ← items.atom.loopName
    let values ← itemsOf name (← items.eval env)
    if values.isEmpty then renderParts env otherwise
    else
      let texts ← values.zipIdx.mapM fun (item, index) => do
        let pass := ⟨bound, item, index, values.length⟩
        pure (← renderParts (env.enter pass) body).1
      .ok (String.join texts, env)

/-- The text of several parts. -/
def renderParts (env : Env) : List Part → Except RenderFault (String × Env)
  | [] => .ok ("", env)
  | part :: parts => do
    let (text, env) ← part.render env
    let (rest, env) ← renderParts env parts
    .ok (text ++ rest, env)

end

/-- The text of a template given its variables. -/
def render (parts : List Part) (globals : List (String × Value)) : Except RenderFault String := do
  .ok (← renderParts (.ofGlobals globals) parts).1

end SpecPrompt.Template
