import SpecPrompt.Text.ClusterData

/-!
# Clusters

What a reader takes for one character may be several: a letter with its accents, a family of
pictographs, a pair of flag letters. Such a cluster ends where no rule joins the next character to
it.
-/

namespace SpecPrompt

namespace ClusterData

/-- The parts of a Hangul syllable that a character holds. -/
inductive Jamo where
  | lead
  | vowel
  | tail
  | leadVowel
  | leadVowelTail
  deriving DecidableEq, Repr

/-- The parts of a Hangul syllable that the code point `n` holds. -/
def jamo? (n : Nat) : Option Jamo :=
  if (0x1100 ≤ n && n ≤ 0x115F) || (0xA960 ≤ n && n ≤ 0xA97C) then some .lead
  else if (0x1160 ≤ n && n ≤ 0x11A7) || (0xD7B0 ≤ n && n ≤ 0xD7C6) || n = 0x16D63 ||
      (0x16D67 ≤ n && n ≤ 0x16D6A) then some .vowel
  else if (0x11A8 ≤ n && n ≤ 0x11FF) || (0xD7CB ≤ n && n ≤ 0xD7FB) then some .tail
  else if 0xAC00 ≤ n && n ≤ 0xD7A3 then
    if (n - 0xAC00) % 28 = 0 then some .leadVowel else some .leadVowelTail
  else none

/-- Whether the syllable goes on from one of its parts to another. -/
def Jamo.joins : Jamo → Jamo → Bool
  | lead, tail => false
  | lead, _ => true
  | vowel, vowel | vowel, tail | leadVowel, vowel | leadVowel, tail => true
  | tail, tail | leadVowelTail, tail => true
  | _, _ => false

end ClusterData

namespace Chars

/-- Whether `c` is one of the letters that pairs of flags are written in. -/
def isFlagLetter (c : Char) : Bool :=
  0x1F1E6 ≤ c.toNat && c.toNat ≤ 0x1F1FF

/-- The character that joins pictographs. -/
def joiner : Char := '\u200D'

/-- The character that keeps two characters from being joined to a ligature. -/
def nonJoiner : Char := '\u200C'

/-- Whether `c` extends the character before it. -/
def isExtender (c : Char) : Bool :=
  ClusterData.extend.covers c

/-- Whether `c` may stand between the consonants of a conjunct. -/
def isConjunctMark (c : Char) : Bool :=
  (isExtender c || c = joiner) && c ≠ nonJoiner

/-- Whether `c` makes a conjunct with the end of a cluster, the last character first. -/
def joinsConjunct (before : List Char) (c : Char) : Bool :=
  ClusterData.consonant.covers c &&
    (before.takeWhile isConjunctMark).any (fun mark => ClusterData.linker.contains mark.toNat) &&
    (before.dropWhile isConjunctMark).head?.any ClusterData.consonant.covers

/-- Whether a joiner ties the pictograph `c` to a pictograph at the end of a cluster, the last
character first. -/
def joinsPictograph (before : List Char) (c : Char) : Bool :=
  ClusterData.pictograph.covers c && before.head? = some joiner &&
    (before.tail.dropWhile isExtender).head?.any ClusterData.pictograph.covers

/-- Whether `c` belongs to the cluster that ends in `before`, the last character first. -/
def joinsCluster (before : List Char) (c : Char) : Bool :=
  match before with
  | [] => true
  | last :: _ =>
    if last = '\r' && c = '\n' then true
    else if ClusterData.control.covers last || ClusterData.control.covers c then false
    else
      isExtender c || c = joiner || ClusterData.spacing.covers c ||
        ClusterData.leading.covers last ||
        ((ClusterData.jamo? last.toNat).any fun j => (ClusterData.jamo? c.toNat).any j.joins) ||
        joinsConjunct before c || joinsPictograph before c ||
        (isFlagLetter c && (before.takeWhile isFlagLetter).length % 2 = 1)

/-- The clusters of `cs`. -/
def clusters (cs : List Char) : List (List Char) :=
  go [] [] cs
where
  go (done : List (List Char)) (current : List Char) : List Char → List (List Char)
    | [] => (if current.isEmpty then done else current.reverse :: done).reverse
    | c :: cs =>
      if joinsCluster current c then go done (c :: current) cs
      else go (current.reverse :: done) [c] cs

end Chars

end SpecPrompt
