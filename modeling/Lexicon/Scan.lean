/-
Scanning an input with a set of symbols. The first symbol that matches the rest of the input gives the next token,
and as many bytes as it took are dropped from the front of the rest. A scan ends when nothing matches, at the
sentinel, at a match that took nothing, or when a character would have to be cut.
-/
import Lexicon.Catalog.Symbols

namespace Lexicon

/-- the bytes of a text -/
def byteLength (text : List Char) : Nat := text.foldr (fun c n => c.utf8Size + n) 0

/-- the text without its first n bytes, unless that ends inside a character or behind the end -/
def dropBytes? : Nat → List Char → Option (List Char)
  | 0, text => some text
  | _ + 1, [] => none
  | n + 1, c :: cs => if c.utf8Size ≤ n + 1 then dropBytes? (n + 1 - c.utf8Size) cs else none

/-- why a scan ended -/
inductive Stop where
  | noMatch
  | sentinel
  | emptyMatch
  | uncuttable
  deriving DecidableEq

/-- a scan: the tokens with the symbols that took them, what is left of the input, and why it ended -/
structure Scan where
  tokens : List (Symbol × List Char)
  rest : List Char
  stop : Stop

namespace Scan

/-- one more token in front -/
def cons (token : Symbol × List Char) (s : Scan) : Scan := ⟨token :: s.tokens, s.rest, s.stop⟩

/-- scans an input; `fuel` bounds the tokens -/
def ofChars (symbols : Catalog Symbol) : Nat → List Char → Scan
  | 0, input => ⟨[], input, .noMatch⟩
  | fuel + 1, input =>
    match symbols.firstTake? input with
    | none => ⟨[], input, .noMatch⟩
    | some (x, taken) =>
      if x.isEndOfInput then ⟨[(x, taken)], input, .sentinel⟩
      else if taken.isEmpty then ⟨[(x, taken)], input, .emptyMatch⟩
      else
        match dropBytes? (byteLength taken) input with
        | none => ⟨[(x, taken)], input, .uncuttable⟩
        | some rest => (ofChars symbols fuel rest).cons (x, taken)

/-- scans an input -/
def of (symbols : Catalog Symbol) (input : String) : Scan := ofChars symbols (input.length + 1) input.toList

end Scan

end Lexicon
