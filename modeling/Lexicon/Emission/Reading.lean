/-
Reading emitted tables back. `readTable?` takes the text of a table apart into the definitions it was written from;
it accepts nothing but what `Emission.array` writes, up to the spelling of characters inside literals.
-/
import Lexicon.Emission

namespace Lexicon.Emission

/-- what follows a text that has to come next -/
def expect? : List Char → List Char → Option (List Char)
  | [], s => some s
  | _ :: _, [] => none
  | c :: cs, d :: ds => if c = d then expect? cs ds else none

/-- all kinds of symbols -/
def kinds : List SymbolKind := [.terminal, .nonTerminal, .start, .endOfInput]

/-- reads the name of a kind -/
def readKind? (s : List Char) : Option (SymbolKind × List Char) :=
  kinds.findSome? fun k => (expect? k.name.toList s).map fun rest => (k, rest)

/-- the forms of a pattern with a text -/
def textForms : List (String → PatternText) := [.character, .string, .regexp, .regexpAnywhere]

/-- reads an argument in parentheses -/
def readArgument? (s : List Char) : Option (List Char × List Char) := do
  let s ← expect? ['('] s
  let (text, s) ← Literal.read? s
  let s ← expect? [')'] s
  return (text, s)

/-- reads a form of a pattern with its text -/
def readForm? (form : String → PatternText) (s : List Char) : Option (PatternText × List Char) := do
  let s ← expect? (form "").parts.1.toList s
  let (text, s) ← readArgument? s
  return (form (String.ofList text), s)

/-- reads the call or name that makes a pattern -/
def readPattern? (s : List Char) : Option (PatternText × List Char) := do
  let s ← expect? patternPath s
  match textForms.findSome? fun form => readForm? form s with
  | some r => return r
  | none =>
    let s ← expect? PatternText.absent.parts.1.toList s
    return (.absent, s)

/-- reads the call that makes a definition -/
def readDefinition? (s : List Char) : Option (Definition × List Char) := do
  let s ← expect? definitionPath s
  let (kind, s) ← readKind? s
  let s ← expect? comma s
  let (id, s) ← Literal.read? s
  let s ← expect? comma s
  let (pattern, s) ← readPattern? s
  let s ← expect? [')'] s
  return (⟨kind, String.ofList id, pattern⟩, s)

/-- reads definitions with commas between them; `fuel` bounds their number -/
def readDefinitions? : Nat → List Char → Option (List Definition × List Char)
  | 0, _ => none
  | fuel + 1, s =>
    match readDefinition? s with
    | none => none
    | some (d, s) =>
      match expect? comma s with
      | none => some ([d], s)
      | some s => (readDefinitions? fuel s).map fun (ds, s) => (d :: ds, s)

/-- reads a table -/
def readTable? (s : List Char) : Option (List Definition) :=
  match expect? ['['] s with
  | none => none
  | some s =>
    if s = [']'] then some []
    else
      match readDefinitions? s.length s with
      | some (ds, [']']) => some ds
      | _ => none

end Lexicon.Emission
