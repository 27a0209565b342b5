/-
Plain values as items: truth values, integers of the usual widths, characters and texts. They are identical when they
are equal. Texts come as owned strings and as borrowed slices, which differ in the name of their type only.
-/
import Lexicon.Text.Quoted
import Lexicon.Typed

namespace Lexicon

/-- the types of integers -/
inductive IntegerType where
  | i8
  | i16
  | i32
  | i64
  | i128
  | isize
  | u8
  | u16
  | u32
  | u64
  | u128
  | usize
  deriving DecidableEq

namespace IntegerType

/-- the name of a type of integers -/
def name : IntegerType → String
  | .i8 => "i8"
  | .i16 => "i16"
  | .i32 => "i32"
  | .i64 => "i64"
  | .i128 => "i128"
  | .isize => "isize"
  | .u8 => "u8"
  | .u16 => "u16"
  | .u32 => "u32"
  | .u64 => "u64"
  | .u128 => "u128"
  | .usize => "usize"

/-- all types of integers -/
def all : List IntegerType := [.i8, .i16, .i32, .i64, .i128, .isize, .u8, .u16, .u32, .u64, .u128, .usize]

end IntegerType

/-- a plain value -/
inductive Scalar where
  | bool (b : Bool)
  | integer (type : IntegerType) (n : Int)
  | char (c : Char)
  | string (s : String)
  | slice (s : String)
  deriving DecidableEq

namespace Scalar

/-- the name of the type of a value -/
def typeName : Scalar → String
  | .bool _ => "bool"
  | .integer type _ => type.name
  | .char _ => "char"
  | .string _ => "String"
  | .slice _ => "str"

/-- a value as text -/
def display : Scalar → String
  | .bool b => if b then "true" else "false"
  | .integer _ n => n.repr
  | .char c => String.singleton c
  | .string s => s
  | .slice s => s

/-- the shape of a value -/
def dump : Scalar → Dump
  | .char c => .atom (Quoted.char c)
  | .string s => .atom (Quoted.text s)
  | .slice s => .atom (Quoted.text s)
  | x => .atom x.display

instance : Typed Scalar := ⟨typeName, fun x tag => x.typeName == tag⟩

instance : Identical Scalar := ⟨fun x y => decide (x = y)⟩

instance : Presented Scalar := ⟨display, dump⟩

end Scalar

end Lexicon
