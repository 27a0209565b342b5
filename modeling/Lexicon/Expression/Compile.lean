/-
From the text of an expression to its program. The text can be at fault in its grammar, in what a part means under
its flags, or in the size of the program.
-/
import Lexicon.Expression.Meaning
import Lexicon.Expression.Program
import Lexicon.Expression.Reading
import Lexicon.Expression.Size

namespace Lexicon.Expression

/-- why an expression has no program -/
inductive Refusal where
  | malformed (d : Diagnosis)
  | tooLarge
  deriving DecidableEq

/-- the wording of a refusal of a text -/
def Refusal.report (text : String) : Refusal → String
  | .malformed d => d.report text
  | .tooLarge => "Compiled regex exceeds size limit of " ++ toString sizeLimit ++ " bytes."

/-- the form of the text of an expression -/
def formOf (text : List Char) : Except Diagnosis Form := do
  let tree ← Tree.read text
  let (form, _) ← tree.meaning Modes.initial
  return form

/-- the program of the text of an expression -/
def compile (text : List Char) : Except Refusal Program :=
  match formOf text with
  | .error d => .error (.malformed d)
  | .ok form => if form.fits then .ok form.program else .error .tooLarge

end Lexicon.Expression
