/-
Reading an expression from left to right. A reader holds the characters still to be read and the place where they
start. In the extended form, blanks and comments (from `#` to the end of the line) between the parts of an
expression do not count; the functions that step over them are told whether that form is in force.
-/
import Lexicon.Expression.Fault
import Lexicon.Unicode.Property

namespace Lexicon.Expression

/-- the text still to be read, and where it starts -/
structure Reader where
  rest : List Char
  pos : Position
  deriving DecidableEq

namespace Reader

/-- the reader at the start of a text -/
def ofText (text : List Char) : Reader := ⟨text, Position.start⟩

/-- past the next character -/
def bump (r : Reader) : Reader :=
  match r.rest with
  | [] => r
  | c :: cs => ⟨cs, r.pos.past c⟩

/-- past the next n characters -/
def skip (r : Reader) : Nat → Reader
  | 0 => r
  | n + 1 => r.bump.skip n

/-- past a text, if it comes next -/
def skip? (r : Reader) (text : List Char) : Option Reader :=
  if text.isPrefixOf r.rest then some (r.skip text.length) else none

/-- past the blanks and comments at the front of a text -/
def pastBlanks (inComment : Bool) : List Char → Position → Reader
  | [], p => ⟨[], p⟩
  | c :: cs, p =>
    if inComment then pastBlanks (c != '\n') cs (p.past c)
    else if Unicode.isBlank c then pastBlanks false cs (p.past c)
    else if c = '#' then pastBlanks true cs (p.past c)
    else ⟨c :: cs, p⟩

/-- to the next part of the expression -/
def trim (extended : Bool) (r : Reader) : Reader :=
  if extended then pastBlanks false r.rest r.pos else r

/-- past the next character, then to the next part -/
def advance (extended : Bool) (r : Reader) : Reader := r.bump.trim extended

/-- the first character that is neither blank nor the start of a comment, if there is one -/
def firstSolid (marked : Bool) : List Char → Option Char
  | [] => none
  | c :: cs =>
    if Unicode.isBlank c then firstSolid marked cs
    else if !marked && c == '#' then firstSolid true cs
    else some c

/-- the character after the next one; in the extended form one that is not blank is preferred -/
def peek (extended : Bool) (r : Reader) : Option Char :=
  match r.rest with
  | [] => none
  | _ :: cs => if extended then (firstSolid false cs).orElse fun _ => cs.head? else cs.head?

/-- past blanks, whether or not the extended form is in force -/
def pastSpaces : List Char → Position → Reader
  | [], p => ⟨[], p⟩
  | c :: cs, p => if Unicode.isBlank c then pastSpaces cs (p.past c) else ⟨c :: cs, p⟩

/-- the empty span at the place reached -/
def here (r : Reader) : Span := r.pos.point

/-- the span of the next character -/
def next (r : Reader) : Span := ⟨r.pos, r.bump.pos⟩

end Reader

end Lexicon.Expression
