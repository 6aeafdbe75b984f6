import SpecPrompt.Glob.Pattern

/-!
# Glob matching

A glob matches the bytes of a path as a whole. Matching keeps, for each place of the path, whether
some reading of the tokens so far can end there.
-/

namespace SpecPrompt.Glob

/-- The bytes of one character. -/
def bytesOf (c : Char) : List UInt8 :=
  (String.ofList [c]).toUTF8.data.toList

/-- The byte `/`. -/
def slash : UInt8 := 47

/-- The byte ranges of a class. A stretch of characters contributes the leading bytes of its first
character one by one, the range from that character's last byte to the first byte of its last
character, and the other bytes of the latter one by one. -/
def byteRanges (stretch : Char × Char) : List (UInt8 × UInt8) :=
  let first := bytesOf stretch.1
  let last := bytesOf stretch.2
  let single := fun b => (b, b)
  if stretch.1 = stretch.2 then first.map single
  else first.dropLast.map single ++
    (match first.getLast?, last.head? with
      | some b, some b' => [(b, b')]
      | _, _ => []) ++
    last.tail.map single

/-- Whether `b` belongs to a class. -/
def inClass (negated : Bool) (stretches : List (Char × Char)) (b : UInt8) : Bool :=
  (stretches.flatMap byteRanges).any (fun r => r.1 ≤ b && b ≤ r.2) != negated

/-! ### Places -/

/-- For the place before each byte of a path, and for its end, whether it can be reached. -/
abbrev Reach := List Bool

namespace Reach

/-- The start of a path and no other place. -/
def start (bs : List UInt8) : Reach :=
  true :: bs.map fun _ => false

/-- The places in either of two. -/
def union (a b : Reach) : Reach :=
  a.zipWith (· || ·) b

/-- The places one byte behind the given ones, where that byte satisfies `p`. -/
def step (bs : List UInt8) (p : UInt8 → Bool) (reach : Reach) : Reach :=
  false :: bs.zipWith (fun b here => here && p b) reach

/-- The given places and all places behind one of them. -/
def onward (reach : Reach) : Reach :=
  go false reach
where
  go (passed : Bool) : Reach → Reach
    | [] => []
    | here :: rest => (passed || here) :: go (passed || here) rest

end Reach

mutual

/-- The places behind a token, from any of the given places of `bs`. -/
def Token.advance (bs : List UInt8) (reach : Reach) : Token → Reach
  | .literal c => (bytesOf c).foldl (fun reach b => reach.step bs (· == b)) reach
  | .anyByte => reach.step bs fun _ => true
  | .anything => reach.onward
  | .leadingDirectories => reach.union (reach.onward.step bs (· == slash))
  | .trailingDirectories => (reach.step bs (· == slash)).onward
  | .innerDirectories =>
    let behind := reach.step bs (· == slash)
    behind.union (behind.onward.step bs (· == slash))
  | .oneOf negated stretches => reach.step bs (inClass negated stretches)
  | .alternatives branches =>
    if allVoid branches then reach
    else advanceAny bs reach (reach.map fun _ => false) branches

/-- The places behind a sequence of tokens. -/
def advance (bs : List UInt8) (reach : Reach) : List Token → Reach
  | [] => reach
  | t :: ts => advance bs (t.advance bs reach) ts

/-- The places behind any branch that is not void, and the places `found` before. -/
def advanceAny (bs : List UInt8) (reach found : Reach) : List (List Token) → Reach
  | [] => found
  | b :: branches =>
    let found := if isVoid b then found else found.union (advance bs reach b)
    advanceAny bs reach found branches

end

/-- Whether `g` matches the path `path`. The pattern `**` matches every path. -/
def isMatch (g : Glob) (path : String) : Bool :=
  match g.tokens with
  | [.leadingDirectories] => true
  | tokens =>
    let bs := path.toUTF8.data.toList
    (advance bs (.start bs) tokens).getLastD false

end SpecPrompt.Glob
