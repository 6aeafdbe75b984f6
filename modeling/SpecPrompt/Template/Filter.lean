import SpecPrompt.Template.Fault
import SpecPrompt.Text.Case

/-!
# Filters

A filter makes a value of another one, with the help of named arguments.
-/

namespace SpecPrompt.Template

/-- The filters that templates know. -/
inductive Filter where
  | upper
  | lower
  | length
  | join
  deriving DecidableEq, Repr

namespace Filter

/-- The filter of a name. -/
def named? : String → Option Filter
  | "upper" => some upper
  | "lower" => some lower
  | "length" => some length
  | "join" => some join
  | _ => none

/-- `cs` with the two-character escapes of line feed and tab resolved. -/
def unescape : List Char → List Char
  | '\\' :: 'n' :: cs => '\n' :: unescape cs
  | '\\' :: 't' :: cs => '\t' :: unescape cs
  | c :: cs => c :: unescape cs
  | [] => []

/-- The separator that `join` puts between items: none unless it is told one. One that is no text is
reported in the name of `truncate`. -/
def separator (arguments : List (String × Value)) : Except RenderFault String :=
  match arguments.lookup "sep" with
  | none => .ok ""
  | some (.text sep) => .ok (String.ofList (unescape sep.toList))
  | some value => .error (.filterArgument "truncate" "sep" value "String")

/-- The value of `value` passed through a filter. -/
def apply (filter : Filter) (arguments : List (String × Value)) (value : Value) :
    Except RenderFault Value :=
  match filter, value with
  | upper, .text s => .ok (.text (Text.upper s))
  | upper, value => .error (.filterInput "upper" value "String")
  | lower, .text s => .ok (.text (Text.lower s))
  | lower, value => .error (.filterInput "lower" value "String")
  | length, .text s => .ok (.number s.length)
  | length, .list items => .ok (.number items.length)
  | length, .record fields => .ok (.number fields.length)
  | length, _ => .error .noLength
  | join, .list items => do
    let sep ← separator arguments
    .ok (.text (sep.intercalate (items.map Value.display)))
  | join, value => .error (.filterInput "join" value "Vec<Value>")

end Filter

end SpecPrompt.Template
