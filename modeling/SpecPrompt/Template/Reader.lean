/-!
# Readers

A reader takes something off the start of a text and leaves the rest, or fails. Where a reader has
two ways the second is tried only if the first fails, and a repetition takes as much as it can.
-/

namespace SpecPrompt.Template

/-- Takes something off the start of a text, or fails. -/
abbrev Reader := StateT (List Char) Option

namespace Reader

/-- Takes the text `s`. -/
def literal (s : List Char) : Reader Unit := fun cs =>
  (s.isPrefixOf? cs).map fun rest => ((), rest)

/-- Takes one character that satisfies `p`. -/
def charThat (p : Char → Bool) : Reader Char
  | [] => none
  | c :: cs => if p c then some (c, cs) else none

/-- Takes the characters at the start that satisfy `p`. -/
def charsWhile (p : Char → Bool) : Reader (List Char) := fun cs =>
  some (cs.span p)

/-- Takes what `r` takes, over and over until it fails, but at most `bound` times. -/
def repeated (r : Reader α) : (bound : Nat) → Reader (List α)
  | 0 => pure []
  | bound + 1 =>
    (do
      let a ← r
      let rest ← repeated r bound
      pure (a :: rest)) <|> pure []

/-- Whether the text `s` could be taken. -/
def taken (s : List Char) : Reader Bool :=
  (do literal s; pure true) <|> pure false

/-! ### Blanks -/

/-- Whether a character separates words in a tag. -/
def isSpace (c : Char) : Bool :=
  c = ' ' || c = '\t' || c = '\r' || c = '\n'

/-- Takes the blanks at the start, if any. -/
def blanks : Reader Unit := do
  let _ ← charsWhile isSpace

/-- Takes the blanks at the start, of which there must be one. -/
def someBlanks : Reader Unit := do
  let _ ← charThat isSpace
  blanks

/-- Takes the text `s` after any blanks. -/
def mark (s : List Char) : Reader Unit := do
  blanks
  literal s

end Reader

end SpecPrompt.Template
