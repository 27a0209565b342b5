/-
Symbols of a grammar. A symbol is a terminal, a non-terminal or the start symbol, with an identifier and a pattern,
or it is the sentinel that stands for the end of the input. The start symbol is also a non-terminal, the sentinel
also a terminal.
-/
import Lexicon.Pattern
import Lexicon.Validator

namespace Lexicon

/-- the kinds of symbols -/
inductive SymbolKind where
  | terminal
  | nonTerminal
  | start
  | endOfInput
  deriving DecidableEq

namespace SymbolKind

/-- the name of a kind -/
def name : SymbolKind → String
  | .terminal => "Terminal"
  | .nonTerminal => "NonTerminal"
  | .start => "Start"
  | .endOfInput => "EndOfInput"

/-- whether symbols of the kind are terminals -/
def isTerminal : SymbolKind → Bool
  | .terminal => true
  | .endOfInput => true
  | _ => false

/-- whether symbols of the kind are non-terminals -/
def isNonTerminal : SymbolKind → Bool
  | .nonTerminal => true
  | .start => true
  | _ => false

/-- the tag that symbols of the kind satisfy -/
def tag (k : SymbolKind) : TypeTag := ⟨k.name⟩

end SymbolKind

/-- what a symbol with a pattern is in its grammar -/
inductive Role where
  | terminal
  | nonTerminal
  | start
  deriving DecidableEq

/-- the kind of symbols with a role -/
def Role.kind : Role → SymbolKind
  | .terminal => .terminal
  | .nonTerminal => .nonTerminal
  | .start => .start

/-- a symbol of a grammar -/
inductive Symbol where
  | plain (role : Role) (id : String) (pattern : Pattern)
  | endOfInput
  deriving DecidableEq

namespace Symbol

/-- the identifier of the sentinel -/
def sentinelId : String := "$"

/-- the identifier of a symbol -/
def id : Symbol → String
  | .plain _ id _ => id
  | .endOfInput => sentinelId

/-- the kind of a symbol -/
def kind : Symbol → SymbolKind
  | .plain role _ _ => role.kind
  | .endOfInput => .endOfInput

/-- the pattern of a symbol; the sentinel has none -/
def pattern? : Symbol → Option Pattern
  | .plain _ _ p => some p
  | .endOfInput => none

/-- the way in which a symbol matches -/
def matchKind? (s : Symbol) : Option MatchKind := s.pattern?.map Pattern.kind

/-- the characters of an input that a symbol takes; the sentinel takes the end -/
def take? (s : Symbol) (input : List Char) : Option (List Char) :=
  match s with
  | .plain _ _ p => p.take? input
  | .endOfInput => if input.isEmpty then some [] else none

/-- the text of an input that a symbol takes -/
def match? (s : Symbol) (input : String) : Option String := (s.take? input.toList).map String.ofList

/-- whether a symbol is a terminal -/
def isTerminal (s : Symbol) : Bool := s.kind.isTerminal

/-- whether a symbol is a non-terminal -/
def isNonTerminal (s : Symbol) : Bool := s.kind.isNonTerminal

/-- whether a symbol is the start symbol -/
def isStart (s : Symbol) : Bool := s.kind == .start

/-- whether a symbol is the sentinel -/
def isEndOfInput (s : Symbol) : Bool := s.kind == .endOfInput

/-- the shape of a symbol -/
def dump (s : Symbol) : Dump :=
  .record "Symbol" [
    ("id", .atom (Quoted.text s.id)),
    ("kind", .atom s.kind.name),
    ("pattern", .option (s.pattern?.map Pattern.dump))]

instance : Typed Symbol where
  typeName s := s.kind.name
  isA s tag :=
    tag == "Symbol" || tag == s.kind.name || (tag == SymbolKind.terminal.name && s.isTerminal) ||
      (tag == SymbolKind.nonTerminal.name && s.isNonTerminal)

instance : Identical Symbol := ⟨fun s t => decide (s = t)⟩

instance : Presented Symbol := ⟨id, dump⟩

end Symbol

end Lexicon
