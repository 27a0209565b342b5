/-
String literals of emitted tables. Inside a literal only printable ASCII characters stand; quotes and the backslash
are escaped by a backslash, three control characters by a letter, and everything else by its code point. `read?`
reads a literal back, up to the quote that closes it.
-/
import Lexicon.Text.Hex

namespace Lexicon.Literal

/-- a character inside a literal -/
def escape (c : Char) : List Char :=
  if c = '\t' then ['\\', 't']
  else if c = '\r' then ['\\', 'r']
  else if c = '\n' then ['\\', 'n']
  else if c = '\x27' ∨ c = '"' ∨ c = '\\' then ['\\', c]
  else if 0x20 ≤ c.toNat ∧ c.toNat ≤ 0x7E then [c]
  else ['\\', 'u', '{'] ++ Hex.digits c.toNat ++ ['}']

/-- a text inside a literal -/
def encode (text : List Char) : List Char := text.flatMap escape

/-- a literal with its quotes -/
def quote (text : List Char) : List Char := '"' :: encode text ++ ['"']

/-! ## reading -/

/-- how far into an escape a reader is -/
inductive Escape where
  /-- in none -/
  | outside
  /-- behind a backslash -/
  | begun
  /-- behind the letter of a code point -/
  | lettered
  /-- behind the opening brace of a code point and some digits, which spell the value so far -/
  | digits (count value : Nat)
  deriving DecidableEq

/-- the character that an escape of one character stands for -/
def shortEscape? (c : Char) : Option Char :=
  if c = 't' then some '\t'
  else if c = 'r' then some '\r'
  else if c = 'n' then some '\n'
  else if c = '\x27' ∨ c = '"' ∨ c = '\\' then some c
  else none

/-- the character that one to six digits stand for -/
def codePoint? (count value : Nat) : Option Char :=
  if 1 ≤ count ∧ count ≤ 6 ∧ value.isValidChar then some (Char.ofNat value) else none

/-- one more character of the value read -/
def put (c : Char) (read : Option (List Char × List Char)) : Option (List Char × List Char) :=
  read.map fun r => (c :: r.1, r.2)

/-- reads a literal up to its closing quote: its value and what follows -/
def readFrom : Escape → List Char → Option (List Char × List Char)
  | _, [] => none
  | .outside, c :: cs =>
    if c = '"' then some ([], cs)
    else if c = '\\' then readFrom .begun cs
    else put c (readFrom .outside cs)
  | .begun, c :: cs =>
    if c = 'u' then readFrom .lettered cs
    else (shortEscape? c).bind fun d => put d (readFrom .outside cs)
  | .lettered, c :: cs => if c = '{' then readFrom (.digits 0 0) cs else none
  | .digits count value, c :: cs =>
    if c = '}' then (codePoint? count value).bind fun d => put d (readFrom .outside cs)
    else (Hex.digitValue? c).bind fun d => readFrom (.digits (count + 1) (16 * value + d)) cs

/-- reads a literal from its opening quote on: its value and what follows -/
def read? : List Char → Option (List Char × List Char)
  | '"' :: cs => readFrom .outside cs
  | _ => none

end Lexicon.Literal
