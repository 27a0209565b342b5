/-
The shortest decimal of a binary fraction. A positive value m · 2^q stands for the numbers nearer to it than to its
neighbours, the two ends included when m is even. Of the grids of multiples of 10^k the coarsest with a point in that
interval is taken, and on it the point nearer to the value, the upper one of two equally near.
-/

namespace Lexicon.Decimal

/-- a positive binary fraction: mantissa and exponent, and whether the neighbour below is at half the distance -/
structure Fraction where
  mantissa : Nat
  exponent : Int
  nearBelow : Bool

/-- a decimal: digits and the exponent of ten -/
structure Scaled where
  digits : Nat
  exponent : Int
  deriving DecidableEq

/-- the points of the grid 10^k next to the value: the one to take, if the interval holds one -/
def Fraction.onGrid? (x : Fraction) (k : Int) : Option Nat :=
  let quarter := x.exponent - 2
  let left := Nat.pow 2 quarter.toNat * Nat.pow 10 (-k).toNat
  let right := Nat.pow 10 k.toNat * Nat.pow 2 (-quarter).toNat
  let value := 4 * x.mantissa * left
  let low := (4 * x.mantissa - (if x.nearBelow then 1 else 2)) * left
  let high := (4 * x.mantissa + 2) * left
  let below := value / right
  let holds := fun n =>
    if x.mantissa % 2 = 0 then decide (low ≤ n * right) && decide (n * right ≤ high)
    else decide (low < n * right) && decide (n * right < high)
  match holds below, holds (below + 1) with
  | true, true => if 2 * value < (2 * below + 1) * right then some below else some (below + 1)
  | true, false => some below
  | false, true => some (below + 1)
  | false, false => none

/-- the coarsest grid, from 10^k down, with a point in the interval; `fuel` bounds the grids tried -/
def Fraction.shortestFrom (x : Fraction) : Nat → Int → Scaled
  | 0, k => ⟨0, k⟩
  | fuel + 1, k =>
    match x.onGrid? k with
    | some n => ⟨n, k⟩
    | none => x.shortestFrom fuel (k - 1)

/-- the shortest decimal of a positive fraction -/
def Fraction.shortest (x : Fraction) : Scaled :=
  x.shortestFrom 24 ((x.exponent + x.mantissa.log2 + 1) * 30103 / 100000 + 1)

/-! ## writing -/

/-- the decimal digits of a number -/
def Scaled.text (d : Scaled) : List Char := (Nat.repr d.digits).toList

/-- the decimal without an exponent; `pointZero` adds a fraction of zero to whole numbers -/
def Scaled.positional (pointZero : Bool) (d : Scaled) : List Char :=
  let text := d.text
  if 0 ≤ d.exponent then
    text ++ List.replicate d.exponent.toNat '0' ++ (if pointZero then ['.', '0'] else [])
  else
    let places := (-d.exponent).toNat
    if places < text.length then text.take (text.length - places) ++ '.' :: text.drop (text.length - places)
    else ['0', '.'] ++ List.replicate (places - text.length) '0' ++ text

/-- the decimal with one digit before the point and an exponent -/
def Scaled.scientific (d : Scaled) : List Char :=
  let text := d.text
  let exponent := d.exponent + text.length - 1
  text.take 1 ++ (if text.length ≤ 1 then [] else '.' :: text.drop 1) ++ 'e' :: exponent.repr.toList

end Lexicon.Decimal
