/-
Definitions of symbols as plain data, as they stand in a table, and the symbols built from them. The sentinel needs
no pattern and ignores one; every other symbol needs one, and a pattern of one character must hold exactly one. A
table is built all or nothing: the first definition that cannot be built fails the table before any symbol is checked.
-/
import Lexicon.Catalog.Symbols

namespace Lexicon

/-- a pattern as written in a table -/
inductive PatternText where
  | absent
  | character (text : String)
  | string (text : String)
  | regexp (source : String)
  | regexpAnywhere (source : String)
  deriving DecidableEq

/-- a symbol as written in a table -/
structure Definition where
  kind : SymbolKind
  id : String
  pattern : PatternText
  deriving DecidableEq

/-- the pattern written; `id` is blamed if there is none -/
def PatternText.build (id : String) : PatternText → Attempt Pattern
  | .absent => .fail (.of (.missingPattern id))
  | .character text =>
    match text.toList with
    | [c] => .done (.character c)
    | _ => .fail (.of (.invalidCharacter text))
  | .string text => .done (.string text)
  | .regexp source => Pattern.anchored source
  | .regexpAnywhere source => Pattern.unanchored source

/-- a pattern as written in a table -/
def PatternText.ofPattern : Pattern → PatternText
  | .character c => .character (String.singleton c)
  | .string s => .string s
  | .regexp r =>
    match r.anchoring with
    | .start => .regexp r.source
    | .anywhere => .regexpAnywhere r.source

namespace Definition

/-- a symbol with a pattern written for it -/
def buildAs (d : Definition) (role : Role) : Attempt Symbol :=
  (d.pattern.build d.id).andThen fun p => .done (.plain role d.id p)

/-- the symbol of a definition -/
def build (d : Definition) : Attempt Symbol :=
  match d.kind with
  | .endOfInput => .done .endOfInput
  | .terminal => d.buildAs .terminal
  | .nonTerminal => d.buildAs .nonTerminal
  | .start => d.buildAs .start

/-- the symbols of a table, up to the first definition that cannot be built -/
def buildAll : List Definition → Attempt (List Symbol)
  | [] => .done []
  | d :: ds => d.build.andThen fun s => (buildAll ds).andThen fun ss => .done (s :: ss)

/-- the set of the symbols of a table, under a rule -/
def buildCatalog (ds : List Definition) (v : Validator Symbol) : Attempt (Catalog Symbol) :=
  (buildAll ds).andThen fun ss => Catalog.withValidator ss v

/-- the definition of a symbol -/
def ofSymbol (s : Symbol) : Definition :=
  ⟨s.kind, s.id, match s.pattern? with | none => .absent | some p => .ofPattern p⟩

end Definition

end Lexicon
