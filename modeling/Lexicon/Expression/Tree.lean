/-
Expressions as they are written: a tree of their parts, each with its span. What a part means under the flags in
force is decided later (`Form`), so nothing here depends on flags.
-/
import Lexicon.Expression.Span
import Lexicon.Unicode.Property

namespace Lexicon.Expression

/-- a character of an expression; `byteForm` when it is written with two hexadecimal digits after `\x` -/
structure Literal where
  span : Span
  char : Char
  byteForm : Bool
  deriving DecidableEq

/-- an assertion about the place reached -/
inductive Mark where
  | lineStart
  | lineEnd
  | textStart
  | textEnd
  | wordEdge
  | notWordEdge
  | wordStart
  | wordEnd
  | wordStartHalf
  | wordEndHalf
  deriving DecidableEq

/-- what flags switch -/
inductive Flag where
  | caseInsensitive
  | multiLine
  | dotAll
  | swapGreed
  | unicode
  | crlf
  | extended
  deriving DecidableEq

/-- flags in the order written, each with whether it is switched on -/
abbrev FlagSettings := List (Flag × Bool)

/-- the setting of a flag, if it is mentioned -/
def FlagSettings.setting? (fs : FlagSettings) (f : Flag) : Option Bool :=
  (fs.find? fun s => s.1 == f).map Prod.snd

/-- the classes with a letter of their own -/
inductive ShortClass where
  | digit
  | space
  | word
  deriving DecidableEq

/-- the classes with a bracketed name -/
inductive NamedClass where
  | alnum
  | alpha
  | ascii
  | blank
  | cntrl
  | digit
  | graph
  | lower
  | print
  | punct
  | space
  | upper
  | word
  | xdigit
  deriving DecidableEq

/-- operations between parts of a bracketed class -/
inductive ClassOp where
  | inter
  | difference
  | symmetricDifference
  deriving DecidableEq

/-- a part of a bracketed class -/
inductive ClassTree where
  | empty (span : Span)
  | literal (l : Literal)
  | range (span : Span) (low high : Literal)
  | named (span : Span) (name : NamedClass) (negated : Bool)
  | property (span : Span) (query : Unicode.Query) (negated : Bool)
  | short (span : Span) (name : ShortClass) (negated : Bool)
  | bracketed (span : Span) (negated : Bool) (body : ClassTree)
  | union (span : Span) (items : List ClassTree)
  | binary (span : Span) (op : ClassOp) (left right : ClassTree)

/-- where a part of a class stands -/
def ClassTree.span : ClassTree → Span
  | .empty s => s
  | .literal l => l.span
  | .range s _ _ => s
  | .named s _ _ => s
  | .property s _ _ => s
  | .short s _ _ => s
  | .bracketed s _ _ => s
  | .union s _ => s
  | .binary s _ _ _ => s

/-- what a group does besides holding its content together -/
inductive Group where
  /-- captures, with the number of the capture -/
  | capture (index : Nat)
  /-- sets flags for its content -/
  | scoped (flags : FlagSettings)
  deriving DecidableEq

/-- an expression as written -/
inductive Tree where
  | empty (span : Span)
  | flags (span : Span) (settings : FlagSettings)
  | literal (l : Literal)
  | dot (span : Span)
  | mark (span : Span) (m : Mark)
  | property (span : Span) (query : Unicode.Query) (negated : Bool)
  | short (span : Span) (name : ShortClass) (negated : Bool)
  | bracketed (span : Span) (negated : Bool) (body : ClassTree)
  | repetition (span : Span) (min : Nat) (max : Option Nat) (greedy : Bool) (body : Tree)
  | group (span : Span) (kind : Group) (body : Tree)
  | alternation (span : Span) (branches : List Tree)
  | concat (span : Span) (parts : List Tree)

/-- where an expression stands -/
def Tree.span : Tree → Span
  | .empty s => s
  | .flags s _ => s
  | .literal l => l.span
  | .dot s => s
  | .mark s _ => s
  | .property s _ _ => s
  | .short s _ _ => s
  | .bracketed s _ _ => s
  | .repetition s _ _ _ _ => s
  | .group s _ _ => s
  | .alternation s _ => s
  | .concat s _ => s

/-- whether a repetition may follow: neither nothing nor a flag setting can be repeated -/
def Tree.isRepeatable : Tree → Bool
  | .empty _ => false
  | .flags _ _ => false
  | _ => true

end Lexicon.Expression
