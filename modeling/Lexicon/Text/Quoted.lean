/-
Quoted texts and characters, as they appear in dumps and messages. Between the quotes a character stands for itself
unless it is a control character, a mark of the quoting, a mark that joins the character before it, or one that does
not show; those are written as escapes, the last by their code point.
-/
import Lexicon.Unicode.CharSet
import Lexicon.Unicode.Visible

namespace Lexicon.Quoted

/-- the escape of a character by its code point -/
def byCodePoint (c : Char) : List Char := ['\\', 'u', '{'] ++ Hex.digits c.toNat ++ ['}']

/-- the characters that join the one before them -/
def joiningSet : CharSet := CharSet.ofText Unicode.joiningText

/-- the characters that do not show: controls, formats, blanks, fillers, and code points without a character -/
def hiddenSet : CharSet := CharSet.ofText Unicode.hiddenText

/-- whether c is written as it is -/
def isPlain (c : Char) : Bool :=
  c == ' ' || (!joiningSet.contains c && !hiddenSet.contains c)

/-- a character between quotes of the given kind -/
def escape (quote c : Char) : List Char :=
  if c = '\x00' then ['\\', '0']
  else if c = '\t' then ['\\', 't']
  else if c = '\r' then ['\\', 'r']
  else if c = '\n' then ['\\', 'n']
  else if c = quote ∨ c = '\\' then ['\\', c]
  else if isPlain c then [c]
  else byCodePoint c

/-- a text in double quotes -/
def text (s : String) : String := String.ofList ('"' :: s.toList.flatMap (escape '"') ++ ['"'])

/-- a character in single quotes -/
def char (c : Char) : String := String.ofList ('\x27' :: escape '\x27' c ++ ['\x27'])

end Lexicon.Quoted
