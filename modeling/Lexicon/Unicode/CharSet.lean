/-
Sets of characters as ranges of code points. `ranges` is kept in increasing order, no range touching the next, so
that equal sets have equal ranges. The surrogate gap counts as nothing: D7FF and E000 are neighbours.
-/
import Lexicon.Text.Hex
import Lexicon.Text.Words

namespace Lexicon

/-- a set of characters: increasing ranges of code points, both ends included -/
structure CharSet where
  ranges : List (Nat × Nat)
  deriving DecidableEq

namespace CharSet

/-- the greatest code point -/
def last : Nat := 0x10FFFF

/-- the code point that follows, past the surrogates -/
def following (n : Nat) : Nat := if n = 0xD7FF then 0xE000 else n + 1

/-- the code point that precedes, past the surrogates -/
def preceding (n : Nat) : Nat := if n = 0xE000 then 0xD7FF else n - 1

/-- whether the set holds c -/
def contains (s : CharSet) (c : Char) : Bool :=
  s.ranges.any fun r => decide (r.1 ≤ c.toNat) && decide (c.toNat ≤ r.2)

/-- the empty set -/
def empty : CharSet := ⟨[]⟩

/-- whether the set holds nothing -/
def isEmpty (s : CharSet) : Bool := s.ranges.isEmpty

/-- the set of one character -/
def singleton (c : Char) : CharSet := ⟨[(c.toNat, c.toNat)]⟩

/-- the only character of the set, if it has just one -/
def onlyChar? (s : CharSet) : Option Char :=
  match s.ranges with
  | [(a, b)] => if a = b then some (Char.ofNat a) else none
  | _ => none

/-- puts a range before the first one that starts no earlier -/
def place (r : Nat × Nat) : List (Nat × Nat) → List (Nat × Nat)
  | [] => [r]
  | s :: rest => if r.1 ≤ s.1 then r :: s :: rest else s :: place r rest

/-- joins a range with those after it that it touches, ranges being sorted by their start -/
def joinFrom (r : Nat × Nat) : List (Nat × Nat) → List (Nat × Nat)
  | [] => [r]
  | s :: rest =>
    if s.1 ≤ following r.2 then joinFrom (r.1, max r.2 s.2) rest else r :: joinFrom s rest

/-- the set of the characters in any of the ranges -/
def ofRanges (rs : List (Nat × Nat)) : CharSet :=
  match rs.foldr place [] with
  | [] => ⟨[]⟩
  | r :: rest => ⟨joinFrom r rest⟩

/-- the characters of either set -/
def union (s t : CharSet) : CharSet := ofRanges (s.ranges ++ t.ranges)

/-- the ranges between `start` and the end that the given ranges leave out -/
def gapsFrom (start : Nat) : List (Nat × Nat) → List (Nat × Nat)
  | [] => if start ≤ last then [(start, last)] else []
  | r :: rest =>
    if start < r.1 then (start, preceding r.1) :: gapsFrom (following r.2) rest
    else gapsFrom (following r.2) rest

/-- the characters outside the set -/
def complement (s : CharSet) : CharSet := ⟨gapsFrom 0 s.ranges⟩

/-- what two ranges share -/
def overlap? (r s : Nat × Nat) : Option (Nat × Nat) :=
  let low := max r.1 s.1
  let high := min r.2 s.2
  if low ≤ high then some (low, high) else none

/-- the characters of both sets -/
def inter (s t : CharSet) : CharSet := ofRanges (s.ranges.flatMap fun r => t.ranges.filterMap (overlap? r))

/-- the characters of the first set that the second lacks -/
def difference (s t : CharSet) : CharSet := s.inter t.complement

/-- the characters of exactly one of the sets -/
def symmetricDifference (s t : CharSet) : CharSet := (s.union t).difference (s.inter t)

/-- whether all characters are below 80 hexadecimal -/
def isAscii (s : CharSet) : Bool := s.ranges.all fun r => decide (r.2 < 0x80)

/-- adds every group of code points of which the set holds a member -/
def closeUnder (groups : List (List Nat)) (s : CharSet) : CharSet :=
  let holds := fun n => s.ranges.any fun r => decide (r.1 ≤ n) && decide (n ≤ r.2)
  ofRanges (s.ranges ++ (groups.filter fun g => g.any holds).flatMap fun g => g.map fun n => (n, n))

/-- reads one range: two code points around a hyphen, or one -/
def readRange (word : List Char) : Option (Nat × Nat) :=
  (Hex.value? (word.takeWhile (· != '-'))).bind fun low =>
    match word.dropWhile (· != '-') with
    | [] => some (low, low)
    | _ :: high => (Hex.value? high).map fun high => (low, high)

/-- reads a row of a property table: hexadecimal ranges in increasing order -/
def ofText (text : String) : CharSet := ⟨(wordsOf text).filterMap readRange⟩

end CharSet

end Lexicon
