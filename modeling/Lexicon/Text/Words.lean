/-
Words of a text: its stretches without blanks and line ends. Tables are written as texts of words.
-/

namespace Lexicon

/-- whether c stands between words -/
def isGap (c : Char) : Bool := c == ' ' || c == '\n'

/-- the word given in reverse, if there is one, before other words -/
def closeWord (acc : List Char) (later : List (List Char)) : List (List Char) :=
  if acc.isEmpty then later else acc.reverse :: later

/-- the words of a text, the word at hand being given in reverse -/
def wordsFrom (acc : List Char) : List Char → List (List Char)
  | [] => closeWord acc []
  | c :: cs => if isGap c then closeWord acc (wordsFrom [] cs) else wordsFrom (c :: acc) cs

/-- the words of a text -/
def wordsOf (text : String) : List (List Char) := wordsFrom [] text.toList

end Lexicon
