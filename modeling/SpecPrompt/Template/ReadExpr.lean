import SpecPrompt.Template.Expr
import SpecPrompt.Template.Reader

/-!
# Reading expressions

Literals are read before names: a word that starts like `true` or `false` is no name where a value
is asked for. All other words of the language may serve as names too.
-/

namespace SpecPrompt.Template

open Reader

/-! ### Names and literals -/

/-- Whether a character can stand in a name. -/
def isNameChar (c : Char) : Bool :=
  c.isAlphanum || c = '_'

/-- Reads a name without dots. -/
def readName : Reader String := do
  let first ← charThat fun c => c.isAlpha || c = '_'
  let rest ← charsWhile isNameChar
  pure (String.ofList (first :: rest))

/-- Reads a dot and the part of a dotted name after it. -/
def readSegment : Reader String := do
  literal ['.']
  let first ← charThat isNameChar
  let rest ← charsWhile isNameChar
  pure (String.ofList (first :: rest))

/-- Reads a dotted name of at most `bound` parts after the first. -/
def Reference.read (bound : Nat) : Reader Reference := do
  let first ← readName
  let rest ← repeated readSegment bound
  pure ⟨first :: rest⟩

/-- Reads the digits of a number. A zero stands alone. -/
def readDigits : Reader (List Char) :=
  (do literal ['0']; pure ['0']) <|> (do
    let first ← charThat Char.isDigit
    let rest ← charsWhile Char.isDigit
    pure (first :: rest))

/-- Reads an integer, which must fit in 64 bits with its sign. -/
def readInteger : Reader Int := do
  let negative ← taken ['-']
  let size : Int := Chars.ofDigits (← readDigits)
  let n := if negative then -size else size
  if -9223372036854775808 ≤ n ∧ n ≤ 9223372036854775807 then pure n else failure

/-- Reads a text in quotes of one of three kinds, which cannot hold that quote. -/
def readQuoted : Reader String := do
  let quote ← charThat fun c => c = '"' || c = '\'' || c = '\x60'
  let s ← charsWhile (· ≠ quote)
  literal [quote]
  pure (String.ofList s)

/-- Reads a truth value. -/
def readTruth : Reader Bool :=
  (do literal "true".toList <|> literal "True".toList; pure true) <|>
    (do literal "false".toList <|> literal "False".toList; pure false)

/-- Reads a test. -/
def Test.read (bound : Nat) : Reader Test := do
  let subject ← Reference.read bound
  mark "is".toList
  (do
    mark "not".toList
    blanks
    pure ⟨subject, true, ← readName⟩) <|> (do
    blanks
    pure ⟨subject, false, ← readName⟩)

/-- Reads an atom. -/
def Atom.read (bound : Nat) : Reader Atom :=
  Atom.text <$> readQuoted <|> unquoted bound
where
  /-- Reads an atom other than a text. -/
  unquoted (bound : Nat) : Reader Atom :=
    Atom.truth <$> readTruth <|> Atom.test <$> Test.read bound <|>
      Atom.reference <$> Reference.read bound <|> Atom.number <$> readInteger

/-! ### Filters -/

/-- `arguments` with one more. Of two that share a name the last one counts. -/
def addArgument (arguments : List (String × Expr)) (argument : String × Expr) :
    List (String × Expr) :=
  arguments.filter (fun earlier => earlier.1 ≠ argument.1) ++ [argument]

/-- Reads a named argument, given how its expression is read. -/
def readArgument (expr : Reader Expr) : Reader (String × Expr) := do
  blanks
  let name ← readName
  mark ['=']
  blanks
  pure (name, ← expr)

/-- Reads named arguments in parentheses, given how their expressions are read. A comma may follow
the last one. -/
def readArguments (bound : Nat) (expr : Reader Expr) : Reader (List (String × Expr)) := do
  mark ['(']
  let arguments ← (do
    let first ← readArgument expr
    let rest ← repeated (do mark [',']; readArgument expr) bound
    mark [','] <|> pure ()
    pure (first :: rest)) <|> pure []
  mark [')']
  pure (arguments.foldl addArgument [])

/-- Reads a bar and the filter call after it, given how the arguments' expressions are read. -/
def FilterCall.read (bound : Nat) (expr : Reader Expr) : Reader FilterCall := do
  mark ['|']
  blanks
  let name ← readName
  let arguments ← readArguments bound expr <|> pure []
  pure ⟨name, arguments⟩

/-- Reads the filters after an atom. -/
def Operand.readAfter (bound : Nat) (expr : Reader Expr) (atom : Atom) : Reader Operand := do
  pure ⟨atom, ← repeated (FilterCall.read bound expr) bound⟩

/-! ### Expressions -/

/-- Reads a comparison or a single operand, which may be negated, given how the expressions inside
are read. -/
def Expr.readFactor (bound : Nat) (expr : Reader Expr) : Reader Expr := do
  let operand := do (← Atom.read bound) |> Operand.readAfter bound expr
  let negated ← (do literal "not".toList; someBlanks; pure true) <|> pure false
  let a ← operand
  let b ← optional (do mark "==".toList; blanks; operand)
  pure (match negated, b with
    | false, none => .operand a
    | false, some b => .equal a b
    | true, none => .negation a
    | true, some b => .differ a b)

/-- Reads factors joined by `and`, given how the expressions inside are read. -/
def Expr.readWith (bound : Nat) (expr : Reader Expr) : Reader Expr := do
  let first ← readFactor bound expr
  let rest ← repeated (do mark "and".toList; someBlanks; readFactor bound expr) bound
  pure (rest.foldl .both first)

/-- Reads an expression that nests at most `depth` deep. -/
def Expr.readWithin (bound : Nat) : (depth : Nat) → Reader Expr
  | 0 => failure
  | depth + 1 => readWith bound (readWithin bound depth)

/-- Reads an expression in a template of `bound` characters. None nests or repeats more often than
it has characters. -/
def Expr.read (bound : Nat) : Reader Expr :=
  readWithin bound bound

/-- Reads what a loop goes through: an operand that starts from no text. -/
def Operand.readItems (bound : Nat) : Reader Operand := do
  (← Atom.read.unquoted bound) |> Operand.readAfter bound (Expr.read bound)

end SpecPrompt.Template
