/-
What can be wrong with an expression, and how it is reported. A diagnosis is a fault with the span it concerns and,
for what is written twice, the span of the first writing. `Diagnosis.report` shows the expression with carets under
the spans: indented by four when it has one line, with numbered lines between rules when it has several.
-/
import Lexicon.Expression.Span
import Lexicon.Text.Lines

namespace Lexicon.Expression

/-- how deep parts may be nested -/
def nestLimit : Nat := 250

/-- how large a program may become, in bytes -/
def sizeLimit : Nat := 10485760

/-- what can be wrong with the text of an expression -/
inductive Fault where
  | escapeInClass
  | rangeReversed
  | rangeEnd
  | classUnclosed
  | decimalMissing
  | decimalInvalid
  | hexEmpty
  | hexInvalid
  | hexDigit
  | escapeUnfinished
  | escapeUnknown
  | flagDangling
  | flagDuplicate
  | flagNegatedTwice
  | flagUnfinished
  | flagUnknown
  | nameDuplicate
  | nameEmpty
  | nameInvalid
  | nameUnfinished
  | groupUnclosed
  | groupUnopened
  | nestedTooDeep
  | countReversed
  | countUnclosed
  | repetitionMissing
  | edgeUnclosed
  | edgeUnknown
  | edgeOrCountUnfinished
  | propertyInvalid
  | backreference
  | lookaround
  | unicodeNotAllowed
  | invalidUtf8
  | propertyUnknown
  | propertyValueUnknown
  deriving DecidableEq

/-- the wording of a fault -/
def Fault.text : Fault → String
  | .escapeInClass => "invalid escape sequence found in character class"
  | .rangeReversed => "invalid character class range, the start must be <= the end"
  | .rangeEnd => "invalid range boundary, must be a literal"
  | .classUnclosed => "unclosed character class"
  | .decimalMissing => "repetition quantifier expects a valid decimal"
  | .decimalInvalid => "decimal literal invalid"
  | .hexEmpty => "hexadecimal literal empty"
  | .hexInvalid => "hexadecimal literal is not a Unicode scalar value"
  | .hexDigit => "invalid hexadecimal digit"
  | .escapeUnfinished => "incomplete escape sequence, reached end of pattern prematurely"
  | .escapeUnknown => "unrecognized escape sequence"
  | .flagDangling => "dangling flag negation operator"
  | .flagDuplicate => "duplicate flag"
  | .flagNegatedTwice => "flag negation operator repeated"
  | .flagUnfinished => "expected flag but got end of regex"
  | .flagUnknown => "unrecognized flag"
  | .nameDuplicate => "duplicate capture group name"
  | .nameEmpty => "empty capture group name"
  | .nameInvalid => "invalid capture group character"
  | .nameUnfinished => "unclosed capture group name"
  | .groupUnclosed => "unclosed group"
  | .groupUnopened => "unopened group"
  | .nestedTooDeep => "exceed the maximum number of nested parentheses/brackets (" ++ toString nestLimit ++ ")"
  | .countReversed => "invalid repetition count range, the start must be <= the end"
  | .countUnclosed => "unclosed counted repetition"
  | .repetitionMissing => "repetition operator missing expression"
  | .edgeUnclosed => "special word boundary assertion is either unclosed or contains an invalid character"
  | .edgeUnknown =>
    "unrecognized special word boundary assertion, valid choices are: start, end, start-half or end-half"
  | .edgeOrCountUnfinished =>
    "found either the beginning of a special word boundary or a bounded repetition on a \\b with an opening brace, " ++
      "but no closing brace"
  | .propertyInvalid => "invalid Unicode character class"
  | .backreference => "backreferences are not supported"
  | .lookaround => "look-around, including look-ahead and look-behind, is not supported"
  | .unicodeNotAllowed => "Unicode not allowed here"
  | .invalidUtf8 => "pattern can match invalid UTF-8"
  | .propertyUnknown => "Unicode property not found"
  | .propertyValueUnknown => "Unicode property value not found"

/-- a fault, where it is, and where the first of two writings is -/
structure Diagnosis where
  fault : Fault
  span : Span
  first : Option Span
  deriving DecidableEq

/-- a fault at a span -/
def Fault.on (f : Fault) (s : Span) : Diagnosis := ⟨f, s, none⟩

/-! ## the report -/

/-- n copies of a character -/
def copies (n : Nat) (c : Char) : String := String.ofList (List.replicate n c)

/-- the spans to show, by their place in the text -/
def Diagnosis.spans (d : Diagnosis) : List Span :=
  match d.first with
  | none => [d.span]
  | some f => if f.start.offset ≤ d.span.start.offset then [f, d.span] else [d.span, f]

/-- blanks up to each span, then carets under it, at least one -/
def caretsFrom (column : Nat) : List Span → String
  | [] => ""
  | s :: rest =>
    let blanks := s.start.column - 1 - column
    let width := max 1 (s.stop.column - s.start.column)
    copies blanks ' ' ++ copies width '^' ++ caretsFrom (column + blanks + width) rest

/-- the line of carets for the spans on line n, if there are any -/
def caretLine (margin : Nat) (spans : List Span) (n : Nat) : String :=
  match spans.filter fun s => s.isOneLine && s.start.line == n with
  | [] => ""
  | here => copies margin ' ' ++ caretsFrom 0 here ++ "\n"

/-- a number, padded on the left -/
def numberedTo (width n : Nat) : String :=
  let digits := toString n
  copies (width - digits.length) ' ' ++ digits

/-- where a span over several lines starts and ends -/
def Span.note (s : Span) : String :=
  "on line " ++ toString s.start.line ++ " (column " ++ toString s.start.column ++ ") through line " ++
    toString s.stop.line ++ " (column " ++ toString (s.stop.column - 1) ++ ")"

/-- the expression with its faulty places marked, and what is wrong with them -/
def Diagnosis.report (d : Diagnosis) (text : String) : String :=
  let lines := linesOf text
  let header := "regex parse error:\n"
  let footer := "error: " ++ d.fault.text
  if text.contains '\n' then
    let count := lines.length + (if text.endsWith "\n" then 1 else 0)
    let width := (toString count).length
    let rule := copies 79 '~' ++ "\n"
    let shown := lines.zipIdx.map fun (line, i) =>
      numberedTo width (i + 1) ++ ": " ++ line ++ "\n" ++ caretLine (width + 2) d.spans (i + 1)
    let notes := (d.spans.filter fun s => !s.isOneLine).map Span.note
    header ++ rule ++ String.join shown ++ rule ++
      (if notes.isEmpty then "" else String.intercalate "\n" notes ++ "\n") ++ footer
  else
    let shown := lines.map fun line => "    " ++ line ++ "\n" ++ caretLine 4 d.spans 1
    header ++ String.join shown ++ footer

end Lexicon.Expression
