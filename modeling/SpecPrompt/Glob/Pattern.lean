/-!
# Glob patterns

A glob is a sequence of tokens, read from a text. Braces group alternatives and may nest; `**` spans
directories where it stands between slashes or at an end of the pattern.
-/

namespace SpecPrompt

namespace Glob

/-- One element of a glob. -/
inductive Token where
  | literal (c : Char)
  /-- Any one byte. -/
  | anyByte
  /-- Any bytes, slashes too. -/
  | anything
  /-- Nothing, or whole directories from the start of the path on. -/
  | leadingDirectories
  /-- A slash and whatever follows it. -/
  | trailingDirectories
  /-- A slash, or whole directories between two slashes. -/
  | innerDirectories
  /-- One byte inside, or outside, the stretches from one character to another. -/
  | oneOf (negated : Bool) (stretches : List (Char × Char))
  | alternatives (branches : List (List Token))

mutual

/-- Whether a token stands for nothing at all: a group whose branches are all void. -/
def Token.isVoid : Token → Bool
  | .alternatives branches => allVoid branches
  | _ => false

/-- Whether every token of a branch is void. -/
def isVoid : List Token → Bool
  | [] => true
  | t :: ts => t.isVoid && isVoid ts

/-- Whether every branch is void. -/
def allVoid : List (List Token) → Bool
  | [] => true
  | b :: bs => isVoid b && allVoid bs

end

/-- Why a text is no glob. -/
inductive Flaw where
  | unclosedClass
  | emptyRange (first last : Char)
  | unopenedGroup
  | unclosedGroup
  | danglingEscape
  /-- The regular expression of a glob nests too deep. -/
  | expressionTooDeep (expression : String)
  /-- The expressions of a set of globs nest too deep, first at the given position among those that
  share one expression. -/
  | memberTooDeep (position : Nat)
  /-- A flaw in the words of whoever met it. -/
  | other (description : String)
  deriving DecidableEq, Repr

/-- The wording of a flaw in the glob `pattern`. -/
def Flaw.message (flaw : Flaw) (pattern : String) : String :=
  let parsing (reason : String) := "error parsing glob '" ++ pattern ++ "': " ++ reason
  let expression (position : Nat) := "error parsing pattern " ++ toString position
  match flaw with
  | unclosedClass => parsing "unclosed character class; missing ']'"
  | emptyRange first last =>
    parsing ("invalid range; '" ++ first.toString ++ "' > '" ++ last.toString ++ "'")
  | unopenedGroup =>
    parsing "unopened alternate group; missing '\x7b' (maybe escape '\x7d' with '[\x7d]'?)"
  | unclosedGroup =>
    parsing "unclosed alternate group; missing '\x7d' (maybe escape '\x7b' with '[\x7b]'?)"
  | danglingEscape => parsing "dangling '\\'"
  | expressionTooDeep text => "error parsing glob '" ++ text ++ "': " ++ expression 0
  | memberTooDeep position => expression position
  | other description => description

/-! ### Reading -/

/-- A group of alternatives that is being read: the finished branches, the last one first, and the
tokens of the open branch, the last one first. -/
structure Group where
  branches : List (List Token)
  tokens : List Token

namespace Group

/-- The group before anything is read. -/
def fresh : Group := ⟨[], []⟩

/-- The group with a token added to the open branch. -/
def push (g : Group) (t : Token) : Group :=
  { g with tokens := t :: g.tokens }

/-- The group with the open branch finished and another one opened. -/
def nextBranch (g : Group) : Group :=
  ⟨g.tokens.reverse :: g.branches, []⟩

/-- The group as one token. -/
def close (g : Group) : Token :=
  .alternatives g.nextBranch.branches.reverse

end Group

/-- The part of a class that has been read. -/
structure ClassPart where
  negated : Bool
  /-- The stretches, the last one first. -/
  stretches : List (Char × Char)
  /-- Whether a hyphen waits for the end of the last stretch. -/
  hyphen : Bool

/-- The class with another character: the end of the last stretch after a hyphen, or else a stretch
of its own. -/
def ClassPart.add (part : ClassPart) (c : Char) : Except Flaw ClassPart :=
  match part.hyphen, part.stretches with
  | true, (first, _) :: earlier =>
    if c < first then .error (.emptyRange first c)
    else .ok { part with stretches := (first, c) :: earlier, hyphen := false }
  | _, stretches => .ok { part with stretches := (c, c) :: stretches, hyphen := false }

/-- The class as a token. A hyphen that still waits stands for itself. -/
def ClassPart.close (part : ClassPart) : Token :=
  let stretches := if part.hyphen then ('-', '-') :: part.stretches else part.stretches
  .oneOf part.negated stretches.reverse

/-- What the next character belongs to. -/
inductive Mode where
  | tokens
  /-- A backslash precedes it. -/
  | escaped
  /-- One asterisk precedes it, and `before` precedes the asterisk. -/
  | star (before : Option Char)
  /-- Two asterisks precede it, and `before` precedes them. -/
  | doubleStar (before : Option Char)
  /-- An opening bracket precedes it. -/
  | classStart
  | inClass (part : ClassPart)

/-- The state between two characters of a pattern. -/
structure Reader where
  mode : Mode
  /-- The character read last. -/
  before : Option Char
  /-- The groups around the innermost one, from the inside out. -/
  outer : List Group
  /-- The innermost group. -/
  group : Group

namespace Reader

/-- The state at the start of a pattern. -/
def fresh : Reader := ⟨.tokens, none, [], .fresh⟩

/-- The state behind a token. -/
def push (r : Reader) (t : Token) : Reader :=
  { r with mode := .tokens, group := r.group.push t }

/-- The state behind a `**` with the given neighbours, and whether the neighbour behind it is a
slash that the `**` takes up. -/
def doubleStar (r : Reader) (before behind : Option Char) : Reader × Bool :=
  let nested := !r.outer.isEmpty
  let plain := ((r.push .anything).push .anything, false)
  match r.group.tokens with
  | [] =>
    if behind.all (· = '/') then (r.push .leadingDirectories, behind.isSome) else plain
  | last :: earlier =>
    if before = some '/' || (nested && (before = some ',' || before = some '\x7b')) then
      let instead (t : Token) : Reader :=
        let token := match last with
          | .leadingDirectories => .leadingDirectories
          | .trailingDirectories => .trailingDirectories
          | _ => t
        { r with mode := .tokens, group := { r.group with tokens := token :: earlier } }
      match behind with
      | none => (instead .trailingDirectories, false)
      | some '/' => (instead .innerDirectories, true)
      | some c =>
        if nested && (c = ',' || c = '\x7d') then (instead .trailingDirectories, false) else plain
    else plain

/-- Reads a character that starts a token. -/
def startToken (r : Reader) (c : Char) : Except Flaw Reader :=
  match c with
  | '?' => .ok (r.push .anyByte)
  | '*' => .ok { r with mode := .star r.before }
  | '[' => .ok { r with mode := .classStart }
  | '\\' => .ok { r with mode := .escaped }
  | '\x7b' => .ok { r with outer := r.group :: r.outer, group := .fresh }
  | '\x7d' =>
    match r.outer with
    | [] => .error .unopenedGroup
    | enclosing :: outer => .ok { r with outer := outer, group := enclosing.push r.group.close }
  | ',' =>
    if r.outer.isEmpty then .ok (r.push (.literal c))
    else .ok { r with group := r.group.nextBranch }
  | c => .ok (r.push (.literal c))

/-- Reads a character of a class. A bracket or hyphen at its start stands for itself. -/
def readClass (r : Reader) (part : ClassPart) (c : Char) : Except Flaw Reader :=
  if c = ']' && !part.stretches.isEmpty then .ok (r.push part.close)
  else if c = '-' && !part.stretches.isEmpty && !part.hyphen then
    .ok { r with mode := .inClass { part with hyphen := true } }
  else do .ok { r with mode := .inClass (← part.add c) }

/-- Reads a character. -/
def read (r : Reader) (c : Char) : Except Flaw Reader := do
  let next ← match r.mode with
    | .tokens => r.startToken c
    | .escaped => .ok (r.push (.literal c))
    | .star before =>
      if c = '*' then .ok { r with mode := .doubleStar before }
      else (r.push .anything).startToken c
    | .doubleStar before =>
      match r.doubleStar before (some c) with
      | (r, true) => .ok r
      | (r, false) => r.startToken c
    | .classStart =>
      if c = '!' || c = '^' then .ok { r with mode := .inClass ⟨true, [], false⟩ }
      else r.readClass ⟨false, [], false⟩ c
    | .inClass part => r.readClass part c
  .ok { next with before := some c }

/-- The tokens read when the pattern ends. -/
def finish (r : Reader) : Except Flaw (List Token) := do
  let r ← match r.mode with
    | .tokens => .ok r
    | .escaped => .error .danglingEscape
    | .star _ => .ok (r.push .anything)
    | .doubleStar before => .ok (r.doubleStar before none).1
    | .classStart | .inClass _ => .error .unclosedClass
  if r.outer.isEmpty then .ok r.group.tokens.reverse else .error .unclosedGroup

end Reader

end Glob

/-- A glob pattern. -/
structure Glob where
  tokens : List Glob.Token

/-- The glob that `pattern` writes down. -/
def Glob.parse (pattern : String) : Except Glob.Flaw Glob := do
  let reader ← pattern.toList.foldlM Glob.Reader.read .fresh
  .ok ⟨← reader.finish⟩

end SpecPrompt
