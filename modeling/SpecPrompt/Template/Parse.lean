import SpecPrompt.Template.Markup
import SpecPrompt.Template.ReadExpr
import SpecPrompt.Text.Split

/-!
# Reading templates

A template text is cut into pieces at its tags, and the pieces are nested as the tags say.
-/

namespace SpecPrompt.Template

open Reader

/-- A stretch of a template: whole markup, or a tag that opens, continues or closes a block. -/
inductive Piece where
  | markup (m : Markup)
  | ifTag (dashes : Dashes) (condition : Expr)
  | elifTag (dashes : Dashes) (condition : Expr)
  | elseTag (dashes : Dashes)
  | endifTag (dashes : Dashes)
  | forTag (dashes : Dashes) (bound : String) (items : Operand)
  | endforTag (dashes : Dashes)

/-! ### Tags -/

/-- Reads the inside of a tag and its end, the character `close` and a brace. -/
def readInside (close : Char) (inside : Reader α) : Reader (Dashes × α) := do
  let atStart ← taken ['-']
  blanks
  let a ← inside
  blanks
  let atEnd ← taken ['-']
  literal [close, '\x7d']
  pure (⟨atStart, atEnd⟩, a)

/-- Reads a word that a condition follows. -/
def readCondition (bound : Nat) (word : String) : Reader Expr := do
  literal word.toList
  someBlanks
  Expr.read bound

/-- Reads the opening of a loop: the name of its variable and what it goes through. -/
def readLoop (bound : Nat) : Reader (String × Operand) := do
  literal "for".toList
  someBlanks
  let name ← readName
  mark "in".toList
  someBlanks
  pure (name, ← Operand.readItems bound)

/-- Reads an assignment: a name and the expression for its value. -/
def readAssignment (bound : Nat) : Reader (String × Expr) := do
  literal "set".toList
  someBlanks
  let name ← readName
  mark ['=']
  blanks
  pure (name, ← Expr.read bound)

/-- Reads the inside of a tag between percent signs, other than the one before raw text. -/
def readStatement (bound : Nat) : Reader (Dashes → Piece) :=
  (do let e ← readCondition bound "if"; pure (.ifTag · e)) <|>
  (do let e ← readCondition bound "elif"; pure (.elifTag · e)) <|>
  (do literal "else".toList; pure .elseTag) <|>
  (do literal "endif".toList; pure .endifTag) <|>
  (do let (name, items) ← readLoop bound; pure (.forTag · name items)) <|>
  (do literal "endfor".toList; pure .endforTag) <|>
  (do let (name, e) ← readAssignment bound; pure fun d => .markup (.assign d name e))

/-- Reads raw text up to the tag that ends it, and that tag, after text already read, the last
character first. -/
def readRawAfter (before : List Char) : Reader (List Char × Dashes)
  | [] => none
  | c :: cs =>
    match finish (c :: cs) with
    | some (dashes, rest) => some ((before.reverse, dashes), rest)
    | none => readRawAfter (c :: before) cs
where
  /-- Reads the tag that ends raw text. -/
  finish : Reader Dashes := do
    literal ['\x7b', '%']
    pure (← readInside '%' (literal "endraw".toList)).1

/-- Reads raw text between its two tags, from inside the first one. -/
def readRaw : Reader Markup := do
  let (start, _) ← readInside '%' (literal "raw".toList)
  let (s, finish) ← readRawAfter []
  pure (.raw start s finish)

/-- Reads a comment from its inside on. It has some text besides its dashes. -/
def readComment : Reader Dashes := do
  let atStart ← taken ['-']
  let content ← fun cs => Chars.splitOnce ['#', '\x7d'] cs
  let atEnd := content.getLast? = some '-'
  if (if atEnd then content.dropLast else content).isEmpty then failure
  else pure ⟨atStart, atEnd⟩

/-- Reads a tag. -/
def Piece.read (bound : Nat) : Reader Piece :=
  (do
    literal ['\x7b', '\x7b']
    let (dashes, e) ← readInside '\x7d' (Expr.read bound)
    pure (.markup (.output dashes e))) <|>
  (do
    literal ['\x7b', '#']
    pure (.markup (.comment (← readComment)))) <|>
  (do
    literal ['\x7b', '%']
    (do pure (.markup (← readRaw))) <|> (do
      let (dashes, piece) ← readInside '%' (readStatement bound)
      pure (piece dashes)))

/-- Whether a tag starts here. -/
def opensTag : List Char → Bool
  | '\x7b' :: c :: _ => c = '\x7b' || c = '%' || c = '#'
  | _ => false

/-- The pieces of a template, in at most `fuel` steps, given the text before the next tag, the last
character first, and the pieces before that text, the last first. -/
def piecesWithin (bound : Nat) :
    (fuel : Nat) → List Char → List Piece → List Char → Option (List Piece)
  | _, text, pieces, [] => some (endText text pieces).reverse
  | 0, _, _, _ :: _ => none
  | fuel + 1, text, pieces, c :: cs =>
    if opensTag (c :: cs) then
      match Piece.read bound (c :: cs) with
      | none => none
      | some (piece, rest) => piecesWithin bound fuel [] (piece :: endText text pieces) rest
    else piecesWithin bound fuel (c :: text) pieces cs
where
  /-- The pieces with the text after them. -/
  endText (text : List Char) (pieces : List Piece) : List Piece :=
    if text.isEmpty then pieces else .markup (.text text.reverse) :: pieces

/-- The pieces of a template. Each step uses up a character. Comments at the very start are not part
of it, and their dashes cut nothing. -/
def piecesOf (cs : List Char) : Option (List Piece) :=
  (piecesWithin cs.length cs.length [] [] cs).map (·.dropWhile (· matches .markup (.comment _)))

/-! ### Nesting -/

/-- The tag inside which markup is read. -/
inductive OpenTag where
  /-- The case of a branch, after earlier cases, the last one first. -/
  | case (first : Dashes) (earlier : List (Dashes × Expr × List Markup)) (dashes : Dashes)
      (condition : Expr)
  /-- The parts of a branch after its `else`. -/
  | otherwise (first : Dashes) (cases : List (Dashes × Expr × List Markup)) (dashes : Dashes)
  | loop (start : Dashes) (bound : String) (items : Operand)
  /-- The parts of a loop after its last `else` so far. -/
  | loopOtherwise (start : Dashes) (bound : String) (items : Operand) (body : List Markup)

/-- The markup inside the innermost open tag, the last first, and the open tags around it, each with
the markup before it. -/
structure Nesting where
  inside : List Markup
  around : List (OpenTag × List Markup)

namespace Nesting

/-- The nesting with a piece added. A tag that continues or closes a block must stand in one. Of
several `else` in a loop the last one counts. -/
def add (n : Nesting) (piece : Piece) : Option Nesting :=
  match piece, n.around with
  | .markup m, _ => some { n with inside := m :: n.inside }
  | .ifTag d condition, around => some ⟨[], (.case d [] d condition, n.inside) :: around⟩
  | .elifTag d condition, (.case first earlier d' condition', before) :: around =>
    let earlier := (d', condition', n.inside.reverse) :: earlier
    some ⟨[], (.case first earlier d condition, before) :: around⟩
  | .elseTag d, (.case first earlier d' condition', before) :: around =>
    let cases := ((d', condition', n.inside.reverse) :: earlier).reverse
    some ⟨[], (.otherwise first cases d, before) :: around⟩
  | .endifTag d, (.case first earlier d' condition', before) :: around =>
    let cases := ((d', condition', n.inside.reverse) :: earlier).reverse
    some ⟨.branch first cases none d :: before, around⟩
  | .endifTag d, (.otherwise first cases d', before) :: around =>
    some ⟨.branch first cases (some (d', n.inside.reverse)) d :: before, around⟩
  | .forTag d bound items, around => some ⟨[], (.loop d bound items, n.inside) :: around⟩
  | .elseTag _, (.loop d bound items, before) :: around =>
    some ⟨[], (.loopOtherwise d bound items n.inside.reverse, before) :: around⟩
  | .elseTag _, (.loopOtherwise d bound items body, before) :: around =>
    some ⟨[], (.loopOtherwise d bound items body, before) :: around⟩
  | .endforTag d, (.loop start bound items, before) :: around =>
    some ⟨.each start bound items n.inside.reverse [] d :: before, around⟩
  | .endforTag d, (.loopOtherwise start bound items body, before) :: around =>
    some ⟨.each start bound items body n.inside.reverse d :: before, around⟩
  | _, _ => none

/-- The markup once every tag is closed. -/
def close? (n : Nesting) : Option (List Markup) :=
  if n.around.isEmpty then some n.inside.reverse else none

end Nesting

/-- The parts of the template that `source` writes down, if it is one. -/
def parse? (source : String) : Option (List Part) := do
  let nesting ← (← piecesOf source.toList).foldlM Nesting.add ⟨[], []⟩
  some (Markup.partsBetween false false false (← nesting.close?))

end SpecPrompt.Template
