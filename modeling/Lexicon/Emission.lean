/-
Tables of symbols as source text. A symbol is written as the call that makes its definition, its texts as string
literals; a table is the list of the calls in brackets, and a rendered table declares a constant with it.
-/
import Lexicon.Definition
import Lexicon.Text.Literal

namespace Lexicon

/-- the name of a pattern's form, and its text if it has one -/
def PatternText.parts : PatternText → String × Option String
  | .absent => ("Absent", none)
  | .character text => ("Character", some text)
  | .string text => ("String", some text)
  | .regexp source => ("Regexp", some source)
  | .regexpAnywhere source => ("RegexpAnywhere", some source)

namespace Emission

/-- the path in front of the form of a pattern -/
def patternPath : List Char := "sigil::codegen::PatternDef::".toList

/-- the call that makes a definition, up to the name of the kind -/
def definitionPath : List Char := "sigil::codegen::SymbolDef::new(sigil::SymbolKind::".toList

/-- what stands between arguments and between definitions -/
def comma : List Char := [',', ' ']

/-- a call or name with its argument, if there is one -/
def pattern (p : PatternText) : List Char :=
  patternPath ++ p.parts.1.toList ++
    match p.parts.2 with
    | none => []
    | some text => '(' :: Literal.quote text.toList ++ [')']

/-- the call that makes a definition -/
def definition (d : Definition) : List Char :=
  definitionPath ++ d.kind.name.toList ++ comma ++ Literal.quote d.id.toList ++ comma ++ pattern d.pattern ++ [')']

/-- definitions with commas between them -/
def definitions : List Definition → List Char
  | [] => []
  | [d] => definition d
  | d :: ds => definition d ++ comma ++ definitions ds

/-- a list of definitions -/
def array (ds : List Definition) : List Char := '[' :: definitions ds ++ [']']

/-- the call that makes the definition of a symbol -/
def ofSymbol (s : Symbol) : String := String.ofList (definition (.ofSymbol s))

/-- the table of a set of symbols; the log is told -/
def table (s : Catalog Symbol) : Attempt String :=
  Attempt.noting (.tabulating (s.items.map Symbol.id)) <|
    .done (String.ofList (array (s.items.map .ofSymbol)))

/-- the declaration of a constant with the table of a set of symbols -/
def render (name : String) (s : Catalog Symbol) : Attempt String :=
  (table s).andThen fun text =>
    .done ("pub const " ++ name ++ ": [sigil::codegen::SymbolDef; " ++ s.size.repr ++ "] = " ++ text ++ ";\n")

end Emission

end Lexicon
