/-
The log. What an operation does besides its answer is told by records; an `Attempt` is an answer or a failure
together with the records written on the way. In a sequence of attempts the first failure ends the sequence, and the
records up to it are kept.
-/
import Lexicon.Failure

namespace Lexicon

/-- how much a record matters -/
inductive Level where
  | trace
  | debug
  deriving DecidableEq

/-- what the log tells -/
inductive Record where
  /-- the text of an expression is about to be compiled -/
  | compiling (text : String)
  /-- an item of the type was refused at the key -/
  | rejected (type : String) (key : Key)
  /-- a validator was not replaced, for the failure given -/
  | refused (f : Failure)
  /-- a table of the symbols with the identifiers is written -/
  | tabulating (ids : List String)
  deriving DecidableEq

namespace Record

/-- how much a record matters -/
def level : Record → Level
  | .compiling _ => .trace
  | .rejected _ _ => .debug
  | .refused _ => .debug
  | .tabulating _ => .trace

/-- the wording of a record -/
def text : Record → String
  | .compiling text => "compiling /" ++ text ++ "/"
  | .rejected type key => "rejected item of type " ++ type ++ " at key " ++ key.text
  | .refused f => "validator replacement refused: " ++ f.message
  | .tabulating ids => "generating symbol table [" ++ String.intercalate ", " ids ++ "]"

end Record

/-- an answer or a failure, and the records written on the way -/
structure Attempt (β : Type) where
  result : Except Failure β
  log : List Record

namespace Attempt

variable {β γ : Type}

/-- an answer without records -/
def done (b : β) : Attempt β := ⟨.ok b, []⟩

/-- a failure without records -/
def fail (f : Failure) : Attempt β := ⟨.error f, []⟩

/-- an attempt that goes on from the answer of another -/
def andThen (a : Attempt β) (next : β → Attempt γ) : Attempt γ :=
  match a.result with
  | .error f => ⟨.error f, a.log⟩
  | .ok b =>
    let later := next b
    ⟨later.result, a.log ++ later.log⟩

instance : Monad Attempt where
  pure := done
  bind := andThen

/-- the attempt with a record written before it -/
def noting (r : Record) (a : Attempt β) : Attempt β := ⟨a.result, r :: a.log⟩

end Attempt

end Lexicon
