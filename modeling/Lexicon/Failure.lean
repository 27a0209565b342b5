/-
Failures. A failure has a cause and may name the key of the entry it concerns; its message is the wording of the
cause, followed by the key.
-/
import Lexicon.Key

namespace Lexicon

/-- what can go wrong -/
inductive Cause where
  /-- an item of the type was refused by a validator -/
  | invalidItem (type : String)
  /-- no entry has the key -/
  | keyNotFound (key : Key)
  /-- the text is no regular expression -/
  | invalidPattern (pattern reason : String)
  /-- a pattern of one character was given another text -/
  | invalidCharacter (text : String)
  /-- the symbol of the identifier was given no pattern -/
  | missingPattern (id : String)
  /-- the integer is too large for an index -/
  | indexOutOfRange (text : String)
  /-- no index follows the greatest one in use -/
  | indexOverflow (greatest : Int64)
  deriving DecidableEq

namespace Cause

/-- the wording of a cause -/
def message : Cause → String
  | .invalidItem type => "item of type " ++ type ++ " is not valid for set"
  | .keyNotFound key => "unknown key " ++ key.text
  | .invalidPattern pattern reason => "invalid regular expression /" ++ pattern ++ "/: " ++ reason
  | .invalidCharacter text => "a character match expects exactly one character, got " ++ Quoted.text text
  | .missingPattern id => "symbol " ++ id ++ " has no pattern"
  | .indexOutOfRange text => "index " ++ text ++ " does not fit an integer key"
  | .indexOverflow greatest => "no integer key follows " ++ greatest.toInt.repr

/-- the name of a cause -/
def name : Cause → String
  | .invalidItem _ => "InvalidItem"
  | .keyNotFound _ => "KeyNotFound"
  | .invalidPattern _ _ => "InvalidPattern"
  | .invalidCharacter _ => "InvalidCharacter"
  | .missingPattern _ => "MissingPattern"
  | .indexOutOfRange _ => "IndexOutOfRange"
  | .indexOverflow _ => "IndexOverflow"

/-- the shape of a cause -/
def dump (c : Cause) : Dump :=
  match c with
  | .invalidItem text | .invalidCharacter text | .missingPattern text | .indexOutOfRange text =>
    .tuple c.name [.atom (Quoted.text text)]
  | .keyNotFound key => .tuple c.name [key.dump]
  | .invalidPattern pattern reason =>
    .record c.name [("pattern", .atom (Quoted.text pattern)), ("reason", .atom (Quoted.text reason))]
  | .indexOverflow greatest => .tuple c.name [.atom greatest.toInt.repr]

end Cause

/-- a cause, and the key of the entry it concerns -/
structure Failure where
  cause : Cause
  key : Option Key
  deriving DecidableEq

namespace Failure

/-- a failure that concerns no entry -/
def of (c : Cause) : Failure := ⟨c, none⟩

/-- the failure, concerning the entry of a key -/
def concerning (f : Failure) (k : Key) : Failure := ⟨f.cause, some k⟩

/-- the wording of a failure -/
def message (f : Failure) : String :=
  f.cause.message ++
    match f.key with
    | none => ""
    | some k => " (at key " ++ k.text ++ ")"

/-- the shape of a failure -/
def dump (f : Failure) : Dump :=
  .record "SigilError" [("kind", f.cause.dump), ("key", .option (f.key.map Key.dump))]

end Failure

/-- the key of an unsigned 64-bit integer; it fails for one that is too large for an index -/
def Key.ofUInt64 (n : UInt64) : Except Failure Key :=
  if n.toNat ≤ Int64.maxValue.toInt.toNat then .ok (.index (Int64.ofNat n.toNat))
  else .error (.of (.indexOutOfRange n.toNat.repr))

end Lexicon
