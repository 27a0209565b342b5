/-
Places in the text of an expression. A position counts characters from the start (`offset`) and gives line and
column, both from 1; a span is the text between two positions.
-/

namespace Lexicon.Expression

/-- a place between two characters of an expression -/
structure Position where
  offset : Nat
  line : Nat
  column : Nat
  deriving DecidableEq

/-- the place before the first character -/
def Position.start : Position := ⟨0, 1, 1⟩

/-- the place after reading c -/
def Position.past (p : Position) (c : Char) : Position :=
  if c = '\n' then ⟨p.offset + 1, p.line + 1, 1⟩ else ⟨p.offset + 1, p.line, p.column + 1⟩

/-- the text from one place to another -/
structure Span where
  start : Position
  stop : Position
  deriving DecidableEq

/-- the empty span at a place -/
def Position.point (p : Position) : Span := ⟨p, p⟩

/-- the span of the character c at a place -/
def Position.over (p : Position) (c : Char) : Span := ⟨p, p.past c⟩

/-- whether a span stays on its line -/
def Span.isOneLine (s : Span) : Bool := s.start.line == s.stop.line

end Lexicon.Expression
