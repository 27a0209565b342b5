/-
Escapes: what a backslash and the characters behind it mean. A punctuation mark stands for itself, a few letters
stand for control characters, classes and assertions, `\x`, `\u` and `\U` take hexadecimal digits, and `\p` takes
the name of a property. Digits are refused: nothing refers back to a capture.
-/
import Lexicon.Expression.Tree
import Lexicon.Expression.Reader

namespace Lexicon.Expression

/-- what one escape or one plain character stands for -/
inductive Atom where
  | literal (l : Literal)
  | mark (span : Span) (m : Mark)
  | property (span : Span) (query : Unicode.Query) (negated : Bool)
  | short (span : Span) (name : ShortClass) (negated : Bool)

namespace Atom

/-- where an atom stands -/
def span : Atom → Span
  | .literal l => l.span
  | .mark s _ => s
  | .property s _ _ => s
  | .short s _ _ => s

/-- the atom as an expression -/
def toTree : Atom → Tree
  | .literal l => .literal l
  | .mark s m => .mark s m
  | .property s q n => .property s q n
  | .short s c n => .short s c n

/-- the atom as a part of a class; an assertion cannot be one -/
def toClassTree : Atom → Except Diagnosis ClassTree
  | .literal l => .ok (.literal l)
  | .mark s _ => .error (Fault.escapeInClass.on s)
  | .property s q n => .ok (.property s q n)
  | .short s c n => .ok (.short s c n)

/-- the atom as an end of a range; only a character can be one -/
def toRangeEnd : Atom → Except Diagnosis Literal
  | .literal l => .ok l
  | a => .error (Fault.rangeEnd.on a.span)

end Atom

/-- the marks with a meaning of their own, which a backslash takes away -/
def isMeta (c : Char) : Bool :=
  ['\\', '.', '+', '*', '?', '(', ')', '|', '[', ']', '{', '}', '^', '$', '#', '&', '-', '~'].contains c

/-- whether a backslash before c leaves c as it is: an ASCII character that is no letter, digit or angle -/
def isEscapable (c : Char) : Bool :=
  isMeta c || (decide (c.toNat < 0x80) && !c.isAlphanum && c != '<' && c != '>')

/-- the character with a code point, unless there is none -/
def charOf? (n : Nat) : Option Char := if n.isValidChar then some (Char.ofNat n) else none

/-! ## hexadecimal escapes -/

/-- reads n hexadecimal digits -/
def readHexDigits (extended : Bool) : Nat → List Char → Reader → Except Diagnosis (List Char × Reader)
  | 0, acc, r => .ok (acc.reverse, r)
  | n + 1, acc, r =>
    match r.rest with
    | [] => .error (Fault.escapeUnfinished.on r.here)
    | c :: _ =>
      if Hex.isDigit c then readHexDigits extended n (c :: acc) (r.advance extended)
      else .error (Fault.hexDigit.on r.next)

/-- reads hexadecimal digits up to a closing brace; `brace` is the place of the opening one -/
def readHexBraced (extended : Bool) (brace : Position) : Nat → List Char → Reader → Except Diagnosis (List Char × Reader)
  | 0, _, r => .error (Fault.escapeUnfinished.on ⟨brace, r.pos⟩)
  | fuel + 1, acc, r =>
    match r.rest with
    | [] => .error (Fault.escapeUnfinished.on ⟨brace, r.pos⟩)
    | c :: _ =>
      if c = '}' then .ok (acc.reverse, r)
      else if Hex.isDigit c then readHexBraced extended brace fuel (c :: acc) (r.advance extended)
      else .error (Fault.hexDigit.on r.next)

/-- the character that digits spell, at the span that is blamed if they spell none -/
def hexChar (digits : List Char) (blamed : Span) : Except Diagnosis Char :=
  match (Hex.value? digits).bind charOf? with
  | some c => .ok c
  | none => .error (Fault.hexInvalid.on blamed)

/-- how many digits the letter of a hexadecimal escape takes -/
def hexCount (letter : Char) : Nat :=
  if letter = 'x' then 2 else if letter = 'u' then 4 else 8

/-- reads a hexadecimal escape from its letter on; `start` is the place of the backslash -/
def readHex (extended : Bool) (start : Position) (letter : Char) (r : Reader) : Except Diagnosis (Atom × Reader) := do
  let r := r.advance extended
  match r.rest with
  | [] => throw (Fault.escapeUnfinished.on r.here)
  | '{' :: _ =>
    let brace := r.pos
    let inner := r.bump.pos
    let r := r.advance extended
    let (digits, r) ← readHexBraced extended brace (r.rest.length + 1) [] r
    let stop := r.pos
    let r := r.advance extended
    if digits.isEmpty then throw (Fault.hexEmpty.on ⟨brace, r.pos⟩)
    let c ← hexChar digits ⟨inner, stop⟩
    return (.literal ⟨⟨start, r.pos⟩, c, false⟩, r)
  | _ =>
    let first := r.pos
    let (digits, r) ← readHexDigits extended (hexCount letter) [] r
    let c ← hexChar digits ⟨first, r.pos⟩
    return (.literal ⟨⟨start, r.pos⟩, c, letter == 'x'⟩, r)

/-! ## property escapes -/

/-- reads the name of a property up to a closing brace -/
def readName (extended : Bool) : Nat → List Char → Reader → Except Diagnosis (List Char × Reader)
  | 0, _, r => .error (Fault.escapeUnfinished.on r.here)
  | fuel + 1, acc, r =>
    match r.rest with
    | [] => .error (Fault.escapeUnfinished.on r.here)
    | c :: _ => if c = '}' then .ok (acc.reverse, r) else readName extended fuel (c :: acc) (r.advance extended)

/-- what stands before and after the first place of a separator -/
def splitAround? (separator : List Char) : List Char → Option (List Char × List Char)
  | [] => none
  | c :: cs =>
    if separator.isPrefixOf (c :: cs) then some ([], (c :: cs).drop separator.length)
    else (splitAround? separator cs).map fun (a, b) => (c :: a, b)

/-- the query that a name in braces makes, and whether it asks for the others -/
def queryOf (name : List Char) : Unicode.Query × Bool :=
  match splitAround? ['!', '='] name with
  | some (p, v) => (.valued p v, true)
  | none =>
    match splitAround? [':'] name with
    | some (p, v) => (.valued p v, false)
    | none =>
      match splitAround? ['='] name with
      | some (p, v) => (.valued p v, false)
      | none => (.named name, false)

/-- reads a property escape from its letter on; `start` is the place of the backslash -/
def readProperty (extended : Bool) (start : Position) (letter : Char) (r : Reader) : Except Diagnosis (Atom × Reader) := do
  let negated := letter == 'P'
  let r := r.advance extended
  match r.rest with
  | [] => throw (Fault.escapeUnfinished.on r.here)
  | c :: _ =>
    if c = '{' then
      let r := r.advance extended
      let (name, r) ← readName extended (r.rest.length + 1) [] r
      let r := r.bump
      let (query, others) := queryOf name
      return (.property ⟨start, r.pos⟩ query (negated != others), r)
    else if c = '\\' then throw (Fault.propertyInvalid.on r.next)
    else
      let r := r.advance extended
      return (.property ⟨start, r.pos⟩ (.named [c]) negated, r)

/-! ## word edges -/

/-- whether c may be part of the name of a word edge -/
def isEdgeChar (c : Char) : Bool := c.isAlpha || c == '-'

/-- reads the name of a word edge as far as it goes -/
def readEdgeName (extended : Bool) : Nat → List Char → Reader → List Char × Reader
  | 0, acc, r => (acc.reverse, r)
  | fuel + 1, acc, r =>
    match r.rest with
    | [] => (acc.reverse, r)
    | c :: _ =>
      if isEdgeChar c then readEdgeName extended fuel (c :: acc) (r.advance extended) else (acc.reverse, r)

/-- the assertion with a name in braces after `\b` -/
def edgeOf? (name : List Char) : Option Mark :=
  if name = ['s', 't', 'a', 'r', 't'] then some .wordStart
  else if name = ['e', 'n', 'd'] then some .wordEnd
  else if name = ['s', 't', 'a', 'r', 't', '-', 'h', 'a', 'l', 'f'] then some .wordStartHalf
  else if name = ['e', 'n', 'd', '-', 'h', 'a', 'l', 'f'] then some .wordEndHalf
  else none

/-- reads what follows `\b`: an assertion in braces, unless the brace starts a count -/
def readEdge (extended : Bool) (start : Position) (r : Reader) : Except Diagnosis (Atom × Reader) :=
  let plain := (Atom.mark ⟨start, r.pos⟩ .wordEdge, r)
  match r.rest with
  | '{' :: _ =>
    let inner := r.advance extended
    match inner.rest with
    | [] => .error (Fault.edgeOrCountUnfinished.on ⟨start, inner.pos⟩)
    | c :: _ =>
      if isEdgeChar c then
        let (name, after) := readEdgeName extended (inner.rest.length + 1) [] inner
        match after.rest with
        | '}' :: _ =>
          match edgeOf? name with
          | some m => .ok (.mark ⟨start, after.bump.pos⟩ m, after.bump)
          | none => .error (Fault.edgeUnknown.on ⟨inner.pos, after.pos⟩)
        | _ => .error (Fault.edgeUnclosed.on ⟨r.pos, after.pos⟩)
      else .ok plain
  | _ => .ok plain

/-! ## all escapes -/

/-- the character that a letter stands for after a backslash -/
def controlChar? (c : Char) : Option Char :=
  if c = 'a' then some '\x07'
  else if c = 'f' then some '\x0c'
  else if c = 't' then some '\t'
  else if c = 'n' then some '\n'
  else if c = 'r' then some '\r'
  else if c = 'v' then some '\x0b'
  else none

/-- the class that a letter stands for after a backslash, and whether it means the others -/
def shortClass? (c : Char) : Option (ShortClass × Bool) :=
  if c = 'd' then some (.digit, false)
  else if c = 'D' then some (.digit, true)
  else if c = 's' then some (.space, false)
  else if c = 'S' then some (.space, true)
  else if c = 'w' then some (.word, false)
  else if c = 'W' then some (.word, true)
  else none

/-- the assertion that a character stands for after a backslash -/
def mark? (c : Char) : Option Mark :=
  if c = 'A' then some .textStart
  else if c = 'z' then some .textEnd
  else if c = 'B' then some .notWordEdge
  else if c = '<' then some .wordStart
  else if c = '>' then some .wordEnd
  else none

/-- reads an escape of one character c, the reader standing behind it -/
def readLetter (extended : Bool) (start : Position) (c : Char) (r : Reader) : Except Diagnosis (Atom × Reader) :=
  let span : Span := ⟨start, r.pos⟩
  if isEscapable c then .ok (.literal ⟨span, c, false⟩, r)
  else if c = 'b' then readEdge extended start r
  else
    match controlChar? c, shortClass? c, mark? c with
    | some d, _, _ => .ok (.literal ⟨span, d, false⟩, r)
    | _, some (k, negated), _ => .ok (.short span k negated, r)
    | _, _, some m => .ok (.mark span m, r)
    | none, none, none => .error (Fault.escapeUnknown.on span)

/-- reads an escape from its backslash on -/
def readEscape (extended : Bool) (r : Reader) : Except Diagnosis (Atom × Reader) :=
  let start := r.pos
  let r := r.bump
  match r.rest with
  | [] => .error (Fault.escapeUnfinished.on ⟨start, r.pos⟩)
  | c :: _ =>
    if c.isDigit then .error (Fault.backreference.on ⟨start, r.bump.pos⟩)
    else if c = 'x' ∨ c = 'u' ∨ c = 'U' then readHex extended start c r
    else if c = 'p' ∨ c = 'P' then readProperty extended start c r
    else readLetter extended start c r.bump

end Lexicon.Expression
