import SpecPrompt.Glob.Match

/-!
# Regular expressions for globs

A set of globs is matched by regular expressions, apart from the globs that are so plain that texts
can be compared. Expressions nest only so deep; a set with a glob that nests deeper cannot be used.
-/

namespace SpecPrompt.Glob

/-! ### The expression of a glob -/

/-- The characters with a meaning of their own in an expression. -/
def metaCharacters : List Char :=
  ['\\', '.', '+', '*', '?', '(', ')', '|', '[', ']', '\x7b', '\x7d', '^', '$', '#', '&', '-', '~']

/-- A byte in an expression. -/
def byteExpression (b : UInt8) : List Char :=
  let n := b.toNat
  if 128 ≤ n then ['\\', 'x', (n / 16).digitChar, (n % 16).digitChar]
  else if metaCharacters.contains (Char.ofNat n) then ['\\', Char.ofNat n]
  else [Char.ofNat n]

/-- A character in an expression. -/
def charExpression (c : Char) : String :=
  String.ofList ((bytesOf c).flatMap byteExpression)

/-- A stretch of a class in an expression. -/
def stretchExpression (stretch : Char × Char) : String :=
  if stretch.1 = stretch.2 then charExpression stretch.1
  else charExpression stretch.1 ++ "-" ++ charExpression stretch.2

mutual

/-- The expression of a token. -/
def Token.expression : Token → String
  | .literal c => charExpression c
  | .anyByte => "."
  | .anything => ".*"
  | .leadingDirectories => "(?:/?|.*/)"
  | .trailingDirectories => "/.*"
  | .innerDirectories => "(?:/|/.*/)"
  | .oneOf negated stretches =>
    "[" ++ (if negated then "^" else "") ++ String.join (stretches.map stretchExpression) ++ "]"
  | .alternatives branches =>
    if allVoid branches then "" else "(?:" ++ "|".intercalate (branchExpressions branches) ++ ")"

/-- The expression of a sequence of tokens. -/
def expressionOf : List Token → String
  | [] => ""
  | t :: ts => t.expression ++ expressionOf ts

/-- The expressions of the branches that are not void. -/
def branchExpressions : List (List Token) → List String
  | [] => []
  | b :: bs => if isVoid b then branchExpressions bs else expressionOf b :: branchExpressions bs

end

/-- The expression of a glob. -/
def expression (g : Glob) : String :=
  let inner := match g.tokens with
    | [.leadingDirectories] => ".*"
    | tokens => expressionOf tokens
  "(?-u)^" ++ inner ++ "$"

/-! ### Nesting -/

/-- How many items a token adds to a sequence in an expression. -/
def Token.width : Token → Nat
  | .literal c => (bytesOf c).length
  | .trailingDirectories => 2
  | .alternatives branches => if allVoid branches then 0 else 1
  | _ => 1

/-- How many items a stretch adds to a class in an expression. -/
def stretchWidth (stretch : Char × Char) : Nat :=
  if stretch.1 = stretch.2 then (bytesOf stretch.1).length
  else (bytesOf stretch.1).length + (bytesOf stretch.2).length - 1

mutual

/-- How deep the expression of a token nests. Repetitions, sequences, alternations, groups, classes
and the items of a class are one level each. -/
def Token.depth : Token → Nat
  | .literal _ | .anyByte => 0
  | .anything | .trailingDirectories => 1
  | .leadingDirectories | .innerDirectories => 4
  | .oneOf _ stretches => if 1 < (stretches.map stretchWidth).sum then 2 else 1
  | .alternatives branches =>
    if allVoid branches then 0
    else
      let choice := if 1 < (branches.filter fun b => !isVoid b).length then 1 else 0
      1 + choice + deepestBranch branches

/-- How deep the deepest token nests. -/
def deepest : List Token → Nat
  | [] => 0
  | t :: ts => max t.depth (deepest ts)

/-- How deep the deepest branch nests. -/
def deepestBranch : List (List Token) → Nat
  | [] => 0
  | b :: bs =>
    let sequence := if 1 < (b.map Token.width).sum then 1 else 0
    max (sequence + deepest b) (deepestBranch bs)

end

/-- How deep the expression of a glob nests. -/
def depth (g : Glob) : Nat :=
  match g.tokens with
  | [.leadingDirectories] => 2
  | tokens => 1 + deepest tokens

/-- How deep an expression may nest. -/
def depthLimit : Nat := 250

/-! ### Sets of globs -/

/-- How a set matches one of its globs. -/
inductive Method where
  /-- By comparing texts. -/
  | comparison
  /-- By an expression of its own, for the paths with the extension that the glob ends in. -/
  | extension
  /-- By one expression for all globs of this method. -/
  | shared
  deriving DecidableEq, Repr

/-- The characters that `tokens` consist of, if they are literals alone. -/
def literals? (tokens : List Token) : Option (List Char) :=
  tokens.mapM fun
    | .literal c => some c
    | _ => none

/-- Whether `tokens` are literals that the end of a path can be compared with. -/
def isEnding (tokens : List Token) : Bool :=
  (literals? tokens).any fun cs => !cs.isEmpty && cs ≠ ['/']

/-- Whether texts can be compared instead of matching a glob: it is a literal, or a literal with any
text before it or after it. -/
def isPlain (tokens : List Token) : Bool :=
  -- the literals at the end, after what may stand for any start
  let afterStart := match tokens with
    | .leadingDirectories :: .anything :: rest | .anything :: rest => isEnding rest
    | .leadingDirectories :: rest => !rest.isEmpty && (literals? rest).isSome
    | tokens => !tokens.isEmpty && (literals? tokens).isSome
  -- the literals at the start, before what may stand for any end
  let beforeEnd := match tokens.getLast? with
    | some .anything => 1 < tokens.length && (literals? tokens.dropLast).isSome
    | some .trailingDirectories => (literals? tokens.dropLast).isSome
    | _ => false
  afterStart || beforeEnd

/-- Whether `tokens`, the last one first, end in an extension: a dot and literals other than a
slash. -/
def endsInExtension : List Token → Bool
  | .literal c :: before => c = '.' || (c ≠ '/' && endsInExtension before)
  | _ => false

/-- How a set matches `g`. -/
def method (g : Glob) : Method :=
  if isPlain g.tokens then .comparison
  else if endsInExtension g.tokens.reverse then .extension
  else .shared

/-- Whether the expression of `g` nests too deep. -/
def isTooDeep (g : Glob) : Bool :=
  depthLimit < g.depth

/-- Checks that globs can be used as a set. Those with an expression of their own come first. -/
def checkSet (globs : List Glob) : Except Flaw Unit :=
  match globs.find? fun g => g.method = .extension && g.isTooDeep with
  | some g => .error (.expressionTooDeep g.expression)
  | none =>
    match (globs.filter fun g => g.method = .shared).findIdx? isTooDeep with
    | some position => .error (.memberTooDeep position)
    | none => .ok ()

end SpecPrompt.Glob
