/-
Lines of a text. A line ends at a line feed, which may have a carriage return before it; what follows the last line
feed is a line only if it holds something.
-/

namespace Lexicon

/-- the characters of a line, given in reverse, without the carriage return of its line break -/
def closeLine : List Char → List Char
  | '\r' :: acc => acc.reverse
  | acc => acc.reverse

/-- the lines of a text, the line at hand being given in reverse -/
def linesFrom (acc : List Char) : List Char → List (List Char)
  | [] => if acc.isEmpty then [] else [acc.reverse]
  | c :: cs => if c = '\n' then closeLine acc :: linesFrom [] cs else linesFrom (c :: acc) cs

/-- the lines of a text -/
def linesOf (text : String) : List String := (linesFrom [] text.toList).map String.ofList

end Lexicon
