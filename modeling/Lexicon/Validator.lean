/-
Validators: the rule that a set enforces on each of its items. There may be no rule, a test, or a type tag that
items must satisfy.
-/
import Lexicon.Record
import Lexicon.Typed

namespace Lexicon

/-- the name of a type that items must satisfy -/
structure TypeTag where
  text : String
  deriving DecidableEq

namespace TypeTag

/-- the tag, filled up with blanks on the left to a width -/
def padded (t : TypeTag) (width : Nat) : String :=
  String.ofList (List.replicate (width - t.text.length) ' ') ++ t.text

/-- the shape of a tag -/
def dump (t : TypeTag) : Dump := .tuple "TypeTag" [.atom (Quoted.text t.text)]

end TypeTag

/-- the rule for the items of a set -/
inductive Validator (α : Type) where
  /-- every item is accepted -/
  | free
  /-- items that pass the test are accepted -/
  | test (p : α → Bool)
  /-- items that satisfy the tag are accepted -/
  | ofType (tag : TypeTag)

namespace Validator

variable {α : Type}

/-- whether there is no rule -/
def isFree : Validator α → Bool
  | .free => true
  | _ => false

/-- the shape of a validator; a test does not show -/
def dump : Validator α → Dump
  | .free => .atom "None"
  | .test _ => .atom "Predicate(..)"
  | .ofType tag => .tuple "Type" [tag.dump]

/-- whether an item is accepted -/
def accepts [Typed α] : Validator α → α → Bool
  | .free, _ => true
  | .test p, x => p x
  | .ofType tag, x => isA x tag.text

/-- fails for an item that is not accepted, naming its type -/
def validate [Typed α] (v : Validator α) (x : α) : Except Failure Unit :=
  if v.accepts x then .ok () else .error (.of (.invalidItem (typeName x)))

/-- fails for an item that is not accepted, naming its type and the key it would have, and tells the log -/
def check [Typed α] (v : Validator α) (k : Key) (x : α) : Attempt Unit :=
  match v.validate x with
  | .ok u => .done u
  | .error f => Attempt.noting (.rejected (typeName x) k) (.fail (f.concerning k))

/-- checks entries in order, up to the first that is not accepted -/
def checkAll [Typed α] (v : Validator α) : List (Key × α) → Attempt Unit
  | [] => .done ()
  | (k, x) :: rest => (v.check k x).andThen fun _ => v.checkAll rest

end Validator

end Lexicon
