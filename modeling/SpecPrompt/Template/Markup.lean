import SpecPrompt.Template.Part
import SpecPrompt.Text.Blank

/-!
# Markup

A template as written: texts between tags. A dash at the edge of a tag removes the blanks of the
text next to it, except in what a loop shows when it has no items: there blanks stay.
-/

namespace SpecPrompt.Template

/-- Whether a tag has a dash at its start and at its end. -/
structure Dashes where
  atStart : Bool
  atEnd : Bool
  deriving DecidableEq, Repr

/-- One piece of a template as written. Of the tags that enclose others, the outer edges count for
the texts around and the inner edges for the texts within. -/
inductive Markup where
  | text (s : List Char)
  | comment (dashes : Dashes)
  | output (dashes : Dashes) (e : Expr)
  | assign (dashes : Dashes) (name : String) (e : Expr)
  | raw (start : Dashes) (s : List Char) (finish : Dashes)
  | branch (first : Dashes) (cases : List (Dashes × Expr × List Markup))
      (otherwise : Option (Dashes × List Markup)) (finish : Dashes)
  | each (start : Dashes) (bound : String) (items : Operand) (body otherwise : List Markup)
      (finish : Dashes)

namespace Markup

/-- Whether the text before a piece loses the blanks at its end. -/
def cutsBefore : Markup → Bool
  | text _ => false
  | comment d | output d _ | assign d _ _ | raw d _ _ | branch d _ _ _ | each d _ _ _ _ _ =>
    d.atStart

/-- Whether the text after a piece loses the blanks at its start. -/
def cutsAfter : Markup → Bool
  | text _ => false
  | comment d | output d _ | assign d _ _ | raw _ _ d | branch _ _ _ d | each _ _ _ _ _ d =>
    d.atEnd

/-- `s` without the blanks at the edges that are cut. -/
def cut (atStart atEnd : Bool) (s : List Char) : List Char :=
  let s := if atStart then Chars.trimStart s else s
  if atEnd then Chars.trimEnd s else s

/-- A text as parts: none if it is empty. -/
def textParts (s : List Char) : List Part :=
  if s.isEmpty then [] else [.text (String.ofList s)]

mutual

/-- The parts that a piece stands for. Texts inside keep their blanks if `verbatim`. -/
def parts (verbatim : Bool) : Markup → List Part
  | text s => textParts s
  | comment _ => []
  | output _ e => [.output e]
  | assign _ name e => [.assign name e]
  | raw start s finish =>
    textParts (cut (!verbatim && start.atEnd) (!verbatim && finish.atStart) s)
  | branch _ cases otherwise finish =>
    let last := match otherwise with
      | none => finish.atStart
      | some (d, _) => d.atStart
    caseParts verbatim last (otherParts verbatim finish.atStart otherwise) cases
  | each start bound items body otherwise finish =>
    [.each bound items (partsBetween verbatim start.atEnd finish.atStart body)
      (partsBetween true false false otherwise)]

/-- The parts of the pieces between two tags, given whether these cut the texts at their edges. -/
def partsBetween (verbatim atStart atEnd : Bool) : List Markup → List Part
  | [] => []
  | .text s :: rest =>
    let before := match rest with
      | [] => atEnd
      | next :: _ => next.cutsBefore
    textParts (cut (!verbatim && atStart) (!verbatim && before) s) ++
      partsBetween verbatim false atEnd rest
  | piece :: rest => piece.parts verbatim ++ partsBetween verbatim piece.cutsAfter atEnd rest

/-- The cases of a branch with the parts for the case that none holds, given whether the tag after
the last case cuts it. -/
def caseParts (verbatim last : Bool) (otherwise : List Part) :
    List (Dashes × Expr × List Markup) → List Part
  | [] => otherwise
  | (d, condition, body) :: rest =>
    let before := match rest with
      | [] => last
      | (next, _) :: _ => next.atStart
    [.branch condition (partsBetween verbatim d.atEnd before body)
      (caseParts verbatim last otherwise rest)]

/-- The parts of a branch for which no case holds. -/
def otherParts (verbatim last : Bool) : Option (Dashes × List Markup) → List Part
  | none => []
  | some (d, body) => partsBetween verbatim d.atEnd last body

end

end Markup

end SpecPrompt.Template
