import SpecPrompt.Template.Value

/-!
# Faults in rendering

Why a template cannot be rendered, and how that is told: a list of messages, from the template as a
whole inward to the cause.
-/

namespace SpecPrompt.Template

/-- Why a template cannot be rendered. -/
inductive RenderFault where
  | unknownVariable (name : String)
  | unknownFilter (name : String)
  | unknownTest (name : String)
  /-- A filter got a value of another type than it takes. -/
  | filterInput (filter : String) (value : Value) (expected : String)
  /-- A filter got an argument of another type than it takes. -/
  | filterArgument (filter argument : String) (value : Value) (expected : String)
  /-- The filter `length` got a value without one. -/
  | noLength
  /-- An unknown variable was put to a test. -/
  | undefinedTested (test : String)
  /-- A loop goes through a literal, spelled as given. -/
  | literalLoop (spelling : String)
  /-- A loop got a record, whose fields only a loop over names and values could go through. -/
  | keylessLoop (name : String)
  /-- A loop got a value that holds no items. -/
  | notIterable (name : String)
  /-- A filter failed, or an argument of its call. -/
  | inFilter (filter : String) (cause : RenderFault)
  /-- A test failed. -/
  | inTest (test : String) (cause : RenderFault)
  /-- Causes in the words of whoever met them, the outermost first. -/
  | other (messages : List String)

namespace RenderFault

/-- The messages of a cause met inside the template `name`, the outermost first. -/
def causes (name : String) : RenderFault → List String
  | unknownVariable v =>
    ["Variable `" ++ v ++ "` not found in context while rendering '" ++ name ++ "'"]
  | unknownFilter filter => ["Filter '" ++ filter ++ "' not found"]
  | unknownTest test => ["Test '" ++ test ++ "' not found"]
  | filterInput filter value expected =>
    ["Filter `" ++ filter ++ "` was called on an incorrect value: got `" ++ value.spelling ++
      "` but expected a " ++ expected]
  | filterArgument filter argument value expected =>
    ["Filter `" ++ filter ++ "` received an incorrect type for arg `" ++ argument ++ "`: got `" ++
      value.spelling ++ "` but expected a " ++ expected]
  | noLength =>
    ["Filter `length` was used on a value that isn't an array, an object, or a string."]
  | undefinedTested test => ["Tester `" ++ test ++ "` was called on an undefined variable"]
  | literalLoop spelling =>
    ["Forloop containers have to be an ident or a function call (tried to iterate on '" ++
      spelling ++ "')"]
  | keylessLoop v =>
    ["Tried to iterate using key value on variable `" ++ v ++ "`, but it is missing a key"]
  | notIterable v =>
    ["Tried to iterate on a container (`" ++ v ++ "`) that has a unsupported type"]
  | inFilter filter cause => ("Filter call '" ++ filter ++ "' failed") :: cause.causes name
  | inTest test cause => ("Test call '" ++ test ++ "' failed") :: cause.causes name
  | other messages => messages

/-- The messages of a fault in the template `name`, the outermost first. -/
def messages (name : String) (fault : RenderFault) : List String :=
  match fault with
  | other messages => messages
  | fault => ("Failed to render '" ++ name ++ "'") :: fault.causes name

end RenderFault

end SpecPrompt.Template
