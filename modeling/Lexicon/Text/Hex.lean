/-
Hexadecimal digits. `digits n` is the shortest lower-case spelling of n, most significant digit first, and
`value?` reads a run of digits of either case; `value?` undoes `digits`.
-/

namespace Lexicon.Hex

/-- the digit of a number below 16 -/
def digit (n : Nat) : Char :=
  if n < 10 then Char.ofNat (48 + n) else Char.ofNat (87 + n)

/-- the number of a digit, of either case -/
def digitValue? (c : Char) : Option Nat :=
  let n := c.toNat
  if 48 ≤ n ∧ n ≤ 57 then some (n - 48)
  else if 97 ≤ n ∧ n ≤ 102 then some (n - 87)
  else if 65 ≤ n ∧ n ≤ 70 then some (n - 55)
  else none

/-- whether c is a hexadecimal digit -/
def isDigit (c : Char) : Bool := (digitValue? c).isSome

/-- the digits of n in front of those already found; `fuel` bounds their number -/
def digitsOnto : Nat → Nat → List Char → List Char
  | 0, _, acc => acc
  | fuel + 1, n, acc =>
    if n < 16 then digit n :: acc else digitsOnto fuel (n / 16) (digit (n % 16) :: acc)

/-- the shortest spelling of n -/
def digits (n : Nat) : List Char := digitsOnto (n + 1) n []

/-- the number so far, extended by a run of digits -/
def valueFrom : Nat → List Char → Option Nat
  | n, [] => some n
  | n, c :: cs =>
    match digitValue? c with
    | some d => valueFrom (16 * n + d) cs
    | none => none

/-- the number a non-empty run of digits spells -/
def value? : List Char → Option Nat
  | [] => none
  | c :: cs => valueFrom 0 (c :: cs)

theorem digitValue?_digit {n : Nat} (h : n < 16) : digitValue? (digit n) = some n := by
  revert n
  decide

end Lexicon.Hex
