/-
Keys of entries. A key is an integer index of 64 bits or a name; an index never equals a name, however the name is
spelt. Indices come before names, indices in numeric order, names by their characters.
-/
import Lexicon.Text.Dump
import Lexicon.Text.Quoted

namespace Lexicon

/-- the key of an entry -/
inductive Key where
  | index (i : Int64)
  | name (s : String)
  deriving DecidableEq

namespace Key

/-- the index, if the key is one -/
def index? : Key → Option Int64
  | .index i => some i
  | .name _ => none

/-- the name, if the key is one -/
def name? : Key → Option String
  | .index _ => none
  | .name s => some s

/-- the key as text -/
def text : Key → String
  | .index i => i.toInt.repr
  | .name s => s

/-- the shape of a key -/
def dump : Key → Dump
  | .index i => .tuple "Index" [.atom i.toInt.repr]
  | .name s => .tuple "Name" [.atom (Quoted.text s)]

/-- the order of keys -/
def order : Key → Key → Ordering
  | .index i, .index j => compare i.toInt j.toInt
  | .index _, .name _ => .lt
  | .name _, .index _ => .gt
  | .name s, .name t => compare s t

/-- the key of the item at a position, counted from 0 -/
def position (n : Nat) : Key := .index (Int64.ofNat n)

/-! ## keys from integers -/

/-- the key of a 32-bit integer -/
def ofInt32 (n : Int32) : Key := .index n.toInt64

/-- the key of a 64-bit integer -/
def ofInt64 (n : Int64) : Key := .index n

/-- the key of an unsigned 32-bit integer -/
def ofUInt32 (n : UInt32) : Key := .index (Int64.ofNat n.toNat)

end Key

end Lexicon
