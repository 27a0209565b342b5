/-
Encodings of characters as bytes. A range of characters is encoded by sequences of byte ranges: every choice of one
byte from each range of a sequence encodes a character of the range, and each character is encoded by one sequence.
-/
import Lexicon.Unicode.CharSet

namespace Lexicon.Expression.Encoding

/-- a range of bytes, both ends included -/
abbrev ByteRange := Nat × Nat

/-- the bytes of the encoding of a code point -/
def bytes (n : Nat) : List Nat :=
  if n < 0x80 then [n]
  else if n < 0x800 then [0xC0 + n / 0x40, 0x80 + n % 0x40]
  else if n < 0x10000 then [0xE0 + n / 0x1000, 0x80 + n / 0x40 % 0x40, 0x80 + n % 0x40]
  else [0xF0 + n / 0x40000, 0x80 + n / 0x1000 % 0x40, 0x80 + n / 0x40 % 0x40, 0x80 + n % 0x40]

/-- the bytes of the encoding of a text -/
def textBytes (text : List Char) : List Nat := text.flatMap fun c => bytes c.toNat

/-- the last code point that takes as many bytes as n -/
def sameLengthLast (n : Nat) : Nat :=
  if n < 0x80 then 0x7F else if n < 0x800 then 0x7FF else if n < 0x10000 then 0xFFFF else CharSet.last

/-- where to cut a range so that its front has a tail of whole blocks: the last code point of the front -/
def cutAt? (low high block : Nat) : Option Nat :=
  if low / block = high / block then none
  else if low % block ≠ 0 then some ((low / block + 1) * block - 1)
  else if high % block ≠ block - 1 then some (high / block * block - 1)
  else none

/-- the last code point of the front part of a range, if it has to be cut -/
def cut? (low high : Nat) : Option Nat :=
  if low < 0xD800 ∧ 0xD800 ≤ high then some 0xD7FF
  else if sameLengthLast low < high then some (sameLengthLast low)
  else if high < 0x80 then none
  else [0x40, 0x1000, 0x40000].findSome? (cutAt? low high)

/-- a range of code points as sequences of byte ranges; `fuel` bounds their number -/
def sequences : Nat → Nat → Nat → List (List ByteRange)
  | 0, _, _ => []
  | fuel + 1, low, high =>
    let low := if 0xD800 ≤ low ∧ low < 0xE000 then 0xE000 else low
    if high < low then []
    else
      match cut? low high with
      | some n => sequences fuel low n ++ sequences fuel (n + 1) high
      | none => [(bytes low).zip (bytes high)]

/-- a set as sequences of byte ranges, in increasing order -/
def ofSet (s : CharSet) : List (List ByteRange) := s.ranges.flatMap fun r => sequences 32 r.1 r.2

end Lexicon.Expression.Encoding
