/-
Binary fractions as items. They are identical when they compare equal, so the two zeros are and what is no number is
not even identical to itself. They show the shortest decimal that reads back: as text without an exponent, in dumps
with one below 0.0001 and from 10^16 on.
-/
import Lexicon.Decimal.Shortest
import Lexicon.Typed

namespace Lexicon

/-- a binary fraction of 32 or 64 bits -/
inductive Floating where
  | single (x : Float32)
  | double (x : Float)

namespace Floating

/-- what a binary fraction is -/
inductive Parts where
  | nan
  | infinite (negative : Bool)
  | zero (negative : Bool)
  | finite (negative : Bool) (x : Decimal.Fraction)

/-- reads bits as sign, exponent and mantissa, the last of the given length -/
def partsOf (mantissaBits exponentBits bits : Nat) : Parts :=
  let unit := Nat.pow 2 mantissaBits
  let exponents := Nat.pow 2 exponentBits
  let mantissa := bits % unit
  let exponent := bits / unit % exponents
  let negative := bits / (unit * exponents) % 2 == 1
  let bias : Int := exponents / 2 - 1 + mantissaBits
  if exponent = exponents - 1 then
    if mantissa = 0 then .infinite negative else .nan
  else if exponent = 0 then
    if mantissa = 0 then .zero negative else .finite negative ⟨mantissa, 1 - bias, false⟩
  else .finite negative ⟨unit + mantissa, exponent - bias, mantissa == 0 && exponent != 1⟩

/-- what a value is -/
def parts : Floating → Parts
  | .single x => partsOf 23 8 x.toBits.toNat
  | .double x => partsOf 52 11 x.toBits.toNat

/-- the name of the type of a value -/
def typeName : Floating → String
  | .single _ => "f32"
  | .double _ => "f64"

/-- whether two values compare equal -/
def isEqual : Floating → Floating → Bool
  | .single x, .single y => x == y
  | .double x, .double y => x == y
  | _, _ => false

/-- text with a sign in front of what is negative -/
def signed (negative : Bool) (text : List Char) : String :=
  String.ofList (if negative then '-' :: text else text)

/-- whether a decimal is from 0.0001 up to below 10^16 -/
def isPlain (d : Decimal.Scaled) : Bool :=
  let lead := d.exponent + d.text.length
  decide (-3 ≤ lead) && decide (lead ≤ 16)

/-- a value as text -/
def display (x : Floating) : String :=
  match x.parts with
  | .nan => "NaN"
  | .infinite negative => signed negative ['i', 'n', 'f']
  | .zero negative => signed negative ['0']
  | .finite negative f => signed negative (f.shortest.positional false)

/-- the shape of a value -/
def dump (x : Floating) : Dump :=
  match x.parts with
  | .nan => .atom "NaN"
  | .infinite negative => .atom (signed negative ['i', 'n', 'f'])
  | .zero negative => .atom (signed negative ['0', '.', '0'])
  | .finite negative f =>
    let d := f.shortest
    .atom (signed negative (if isPlain d then d.positional true else d.scientific))

instance : Typed Floating := ⟨typeName, fun x tag => x.typeName == tag⟩

instance : BEq Floating := ⟨isEqual⟩

instance : Identical Floating := ⟨isEqual⟩

instance : Presented Floating := ⟨display, dump⟩

end Floating

end Lexicon
