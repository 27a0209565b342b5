/-
What an expression means under the flags in force. `Tree.meaning` turns an expression as written into a form; the
flags set inside a group hold to its end, those set outside to the end of the expression. Without the Unicode flag
classes hold ASCII characters only, and what could match part of a character is refused.
-/
import Lexicon.Expression.Fault
import Lexicon.Expression.Form
import Lexicon.Expression.Tree

namespace Lexicon.Expression

/-- the flags in force -/
structure Modes where
  caseInsensitive : Bool
  multiLine : Bool
  dotAll : Bool
  swapGreed : Bool
  unicode : Bool
  crlf : Bool
  deriving DecidableEq

namespace Modes

/-- the flags in force at the start of an expression -/
def initial : Modes := ⟨false, false, false, false, true, false⟩

/-- one flag set; the extended form matters for reading only -/
def set (m : Modes) : Flag × Bool → Modes
  | (.caseInsensitive, on) => { m with caseInsensitive := on }
  | (.multiLine, on) => { m with multiLine := on }
  | (.dotAll, on) => { m with dotAll := on }
  | (.swapGreed, on) => { m with swapGreed := on }
  | (.unicode, on) => { m with unicode := on }
  | (.crlf, on) => { m with crlf := on }
  | (.extended, _) => m

/-- flags set in the order written -/
def setAll (m : Modes) (fs : FlagSettings) : Modes := fs.foldl Modes.set m

end Modes

/-! ## classes -/

/-- the ASCII letters with their other case -/
def asciiOrbits : List (List Nat) := (List.range 26).map fun n => [65 + n, 97 + n]

/-- the set closed under case folding as the flags ask -/
def Modes.fold (m : Modes) (s : CharSet) : CharSet :=
  if m.caseInsensitive then
    if m.unicode then Unicode.foldCase s else s.closeUnder asciiOrbits
  else s

/-- the others if asked for; without the Unicode flag they would hold parts of characters -/
def Modes.negate (m : Modes) (span : Span) (negated : Bool) (s : CharSet) : Except Diagnosis CharSet :=
  if negated then
    if m.unicode then .ok s.complement else .error (Fault.invalidUtf8.on span)
  else .ok s

/-- the characters of a class with a bracketed name -/
def NamedClass.set : NamedClass → CharSet
  | .alnum => ⟨[(0x30, 0x39), (0x41, 0x5A), (0x61, 0x7A)]⟩
  | .alpha => ⟨[(0x41, 0x5A), (0x61, 0x7A)]⟩
  | .ascii => ⟨[(0x00, 0x7F)]⟩
  | .blank => ⟨[(0x09, 0x09), (0x20, 0x20)]⟩
  | .cntrl => ⟨[(0x00, 0x1F), (0x7F, 0x7F)]⟩
  | .digit => ⟨[(0x30, 0x39)]⟩
  | .graph => ⟨[(0x21, 0x7E)]⟩
  | .lower => ⟨[(0x61, 0x7A)]⟩
  | .print => ⟨[(0x20, 0x7E)]⟩
  | .punct => ⟨[(0x21, 0x2F), (0x3A, 0x40), (0x5B, 0x60), (0x7B, 0x7E)]⟩
  | .space => ⟨[(0x09, 0x0D), (0x20, 0x20)]⟩
  | .upper => ⟨[(0x41, 0x5A)]⟩
  | .word => ⟨[(0x30, 0x39), (0x41, 0x5A), (0x5F, 0x5F), (0x61, 0x7A)]⟩
  | .xdigit => ⟨[(0x30, 0x39), (0x41, 0x46), (0x61, 0x66)]⟩

/-- the ASCII characters of a class with a letter of its own -/
def ShortClass.asciiSet : ShortClass → CharSet
  | .digit => NamedClass.digit.set
  | .space => NamedClass.space.set
  | .word => NamedClass.word.set

/-- the characters of a class with a letter of its own -/
def ShortClass.set : ShortClass → CharSet
  | .digit => Unicode.digitSet
  | .space => Unicode.blankSet
  | .word => Unicode.wordSet

/-- what a class with a letter of its own means -/
def ShortClass.meaning (m : Modes) (span : Span) (k : ShortClass) (negated : Bool) : Except Diagnosis CharSet :=
  m.negate span negated (if m.unicode then k.set else k.asciiSet)

/-- what a property means -/
def propertyMeaning (m : Modes) (span : Span) (query : Unicode.Query) (negated : Bool) :
    Except Diagnosis CharSet :=
  if m.unicode then
    match Unicode.lookup query with
    | .ok s => m.negate span negated (m.fold s)
    | .error .unknownProperty => .error (Fault.propertyUnknown.on span)
    | .error .unknownValue => .error (Fault.propertyValueUnknown.on span)
  else .error (Fault.unicodeNotAllowed.on span)

/-- the character that a literal means; a byte above ASCII is no character without the Unicode flag -/
def Literal.meaning (m : Modes) (l : Literal) : Except Diagnosis Char :=
  if !m.unicode && l.byteForm && decide (0x7F < l.char.toNat) then .error (Fault.invalidUtf8.on l.span)
  else .ok l.char

/-- the code point that a literal means in a class -/
def Literal.classMeaning (m : Modes) (l : Literal) : Except Diagnosis Nat := do
  let c ← l.meaning m
  if !m.unicode && decide (0x7F < c.toNat) then throw (Fault.unicodeNotAllowed.on l.span)
  return c.toNat

/-- the sets combined -/
def ClassOp.apply : ClassOp → CharSet → CharSet → CharSet
  | .inter, s, t => s.inter t
  | .difference, s, t => s.difference t
  | .symmetricDifference, s, t => s.symmetricDifference t

mutual

/-- the characters that a part of a class means -/
def ClassTree.meaning (m : Modes) : ClassTree → Except Diagnosis CharSet
  | .empty _ => .ok CharSet.empty
  | .literal l => do
    let n ← l.classMeaning m
    return ⟨[(n, n)]⟩
  | .range _ low high => do
    let a ← low.classMeaning m
    let b ← high.classMeaning m
    return ⟨[(a, b)]⟩
  | .named span name negated => m.negate span negated (m.fold name.set)
  | .property span query negated => propertyMeaning m span query negated
  | .short span name negated => name.meaning m span negated
  | .bracketed span negated body => do
    let s ← body.meaning m
    m.negate span negated (m.fold s)
  | .union _ items => do
    let rs ← ClassTree.allRanges m items
    return CharSet.ofRanges rs
  | .binary _ op left right => do
    let s ← left.meaning m
    let t ← right.meaning m
    return op.apply (m.fold s) (m.fold t)

/-- the ranges of all parts of a class -/
def ClassTree.allRanges (m : Modes) : List ClassTree → Except Diagnosis (List (Nat × Nat))
  | [] => .ok []
  | t :: ts => do
    let s ← t.meaning m
    let rest ← ClassTree.allRanges m ts
    return s.ranges ++ rest

end

/-! ## expressions -/

/-- the form of one character -/
def Modes.charForm (m : Modes) (c : Char) : Form := .ofSet (m.fold (CharSet.singleton c))

/-- the form of the dot -/
def Modes.dotForm (m : Modes) (span : Span) : Except Diagnosis Form :=
  if !m.unicode then .error (Fault.invalidUtf8.on span)
  else if m.dotAll then .ok (.set ⟨[(0, CharSet.last)]⟩)
  else if m.crlf then .ok (.set ⟨[(0, 0x09), (0x0B, 0x0C), (0x0E, CharSet.last)]⟩)
  else .ok (.set ⟨[(0, 0x09), (0x0B, CharSet.last)]⟩)

/-- what an assertion asks -/
def Mark.look (m : Modes) : Mark → Look
  | .lineStart => if m.multiLine then (if m.crlf then .lineStartCrlf else .lineStart) else .textStart
  | .lineEnd => if m.multiLine then (if m.crlf then .lineEndCrlf else .lineEnd) else .textEnd
  | .textStart => .textStart
  | .textEnd => .textEnd
  | .wordEdge => .word .edge (!m.unicode)
  | .notWordEdge => .word .notEdge (!m.unicode)
  | .wordStart => .word .start (!m.unicode)
  | .wordEnd => .word .stop (!m.unicode)
  | .wordStartHalf => .word .startHalf (!m.unicode)
  | .wordEndHalf => .word .stopHalf (!m.unicode)

mutual

/-- the form of an expression, and the flags in force behind it -/
def Tree.meaning (m : Modes) : Tree → Except Diagnosis (Form × Modes)
  | .empty _ => .ok (.empty, m)
  | .flags _ fs => .ok (.empty, m.setAll fs)
  | .literal l => do
    let c ← l.meaning m
    return (m.charForm c, m)
  | .dot span => do
    let f ← m.dotForm span
    return (f, m)
  | .mark _ k => .ok (.look (k.look m), m)
  | .property span query negated => do
    let s ← propertyMeaning m span query negated
    return (.ofSet s, m)
  | .short span name negated => do
    let s ← name.meaning m span negated
    return (.ofSet s, m)
  | .bracketed span negated body => do
    let s ← body.meaning m
    let s ← m.negate span negated (m.fold s)
    return (.ofSet s, m)
  | .repetition _ min max greedy body => do
    let (f, m) ← body.meaning m
    return (.repeated min max (greedy != m.swapGreed) f, m)
  | .group _ (.capture index) body => do
    let (f, _) ← body.meaning m
    return (.capture index f, m)
  | .group _ (.scoped fs) body => do
    let (f, _) ← body.meaning (m.setAll fs)
    return (f, m)
  | .concat _ parts => do
    let (fs, m) ← Tree.allMeanings m parts
    return (.sequence fs, m)
  | .alternation _ branches => do
    let (fs, m) ← Tree.allMeanings m branches
    return (.oneOf fs, m)

/-- the forms of expressions that follow one another, and the flags in force behind them -/
def Tree.allMeanings (m : Modes) : List Tree → Except Diagnosis (List Form × Modes)
  | [] => .ok ([], m)
  | t :: ts => do
    let (f, m) ← t.meaning m
    let (fs, m) ← Tree.allMeanings m ts
    return (f :: fs, m)

end

end Lexicon.Expression
