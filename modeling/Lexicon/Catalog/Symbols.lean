/-
Sets of symbols. Queries answer with the first symbol in the order of the set; so the order is a priority among the
symbols that match an input.
-/
import Lexicon.Catalog.Basic
import Lexicon.Symbol

namespace Lexicon.Catalog

/-- the terminals, keyed anew -/
def terminals (s : Catalog Symbol) : Catalog Symbol := s.filter Symbol.isTerminal

/-- the non-terminals, keyed anew -/
def nonTerminals (s : Catalog Symbol) : Catalog Symbol := s.filter Symbol.isNonTerminal

/-- the first start symbol -/
def start? (s : Catalog Symbol) : Option Symbol := s.items.find? Symbol.isStart

/-- the first sentinel -/
def endOfInput? (s : Catalog Symbol) : Option Symbol := s.items.find? Symbol.isEndOfInput

/-- the first symbol with an identifier -/
def symbol? (s : Catalog Symbol) (id : String) : Option Symbol := s.items.find? fun x => x.id == id

/-- the first symbol that matches an input, with the characters it takes -/
def firstTake? (s : Catalog Symbol) (input : List Char) : Option (Symbol × List Char) :=
  s.items.findSome? fun x => (x.take? input).map fun m => (x, m)

/-- the first symbol that matches an input, with the text it takes -/
def firstMatch? (s : Catalog Symbol) (input : String) : Option (Symbol × String) :=
  (s.firstTake? input.toList).map fun (x, m) => (x, String.ofList m)

end Lexicon.Catalog
