/-
Programs. A form is compiled into instructions, each naming the instructions that follow it, so that a loop is a
split that leads back. Where an instruction splits, its first successor is preferred: greedy repetitions prefer
another round, and of two alternatives the one written first is preferred. A loop whose body may match empty is
compiled as an optional loop of at least one round, so that a round of its own can match empty before the loop ends.
-/
import Lexicon.Expression.Form

namespace Lexicon.Expression

/-- an instruction -/
inductive Instr where
  /-- the expression has matched -/
  | accept
  /-- takes the character -/
  | char (c : Char) (next : Nat)
  /-- takes a character of the set -/
  | set (s : CharSet) (next : Nat)
  /-- goes on if the place is as asked -/
  | look (l : Look) (next : Nat)
  /-- goes on in two ways, of which the first is preferred -/
  | split (first second : Nat)
  deriving DecidableEq

/-- instructions, and the one to start with -/
structure Program where
  code : Array Instr
  entry : Nat
  deriving DecidableEq

/-- instructions already made, and the one at which what was made last starts -/
structure Piece where
  entry : Nat
  code : Array Instr

/-- makes an instruction -/
def Piece.emit (code : Array Instr) (i : Instr) : Piece := ⟨code.size, code.push i⟩

/-- a split in favour of the first successor, or of the second when lazy -/
def Instr.prefer (greedy : Bool) (a b : Nat) : Instr := if greedy then .split a b else .split b a

/-- makes something that goes on at an instruction -/
abbrev Maker := Nat → Array Instr → Piece

namespace Maker

/-- n rounds -/
def rounds (body : Maker) : Nat → Maker
  | 0, next, code => ⟨next, code⟩
  | n + 1, next, code =>
    let later := rounds body n next code
    body later.entry later.code

/-- up to n rounds -/
def upTo (body : Maker) (greedy : Bool) : Nat → Maker
  | 0, next, code => ⟨next, code⟩
  | n + 1, next, code =>
    let later := upTo body greedy n next code
    let round := body later.entry later.code
    Piece.emit round.code (.prefer greedy round.entry next)

/-- a round and a split behind it that leads back; the split is the instruction next to be made -/
def loop (body : Maker) (greedy : Bool) : Maker := fun next code =>
  let slot := code.size
  let round := body slot (code.push .accept)
  ⟨round.entry, round.code.setIfInBounds slot (.prefer greedy round.entry next)⟩

/-- any number of rounds, each of which takes a character -/
def anyConsuming (body : Maker) (greedy : Bool) : Maker := fun next code =>
  ⟨code.size, (loop body greedy next code).code⟩

/-- any number of rounds, each of which may match empty -/
def anyOptional (body : Maker) (greedy : Bool) : Maker := fun next code =>
  let least := loop body greedy next code
  Piece.emit least.code (.prefer greedy least.entry next)

/-- the characters of a text -/
def literal : List Char → Maker
  | [], next, code => ⟨next, code⟩
  | c :: cs, next, code =>
    let later := literal cs next code
    Piece.emit later.code (.char c later.entry)

end Maker

mutual

/-- makes a form -/
def Form.make : Form → Maker
  | .empty, next, code => ⟨next, code⟩
  | .literal a, next, code => Maker.literal a next code
  | .set s, next, code => Piece.emit code (.set s next)
  | .look l, next, code => Piece.emit code (.look l next)
  | .capture _ a, next, code => a.make next code
  | .concat as, next, code => Form.makeAll as next code
  | .alternation as, next, code => Form.makeFirst as next code
  | .repetition min max greedy a, next, code =>
    match max with
    | some n =>
      let later := Maker.upTo (fun k c => a.make k c) greedy (n - min) next code
      Maker.rounds (fun k c => a.make k c) min later.entry later.code
    | none =>
      if min = 0 then
        if a.consumes then Maker.anyConsuming (fun k c => a.make k c) greedy next code
        else Maker.anyOptional (fun k c => a.make k c) greedy next code
      else
        let later := Maker.loop (fun k c => a.make k c) greedy next code
        Maker.rounds (fun k c => a.make k c) (min - 1) later.entry later.code

/-- makes one form after the other -/
def Form.makeAll : List Form → Maker
  | [], next, code => ⟨next, code⟩
  | a :: as, next, code =>
    let later := Form.makeAll as next code
    a.make later.entry later.code

/-- makes a choice between forms -/
def Form.makeFirst : List Form → Maker
  | [], next, code => Piece.emit code (.set CharSet.empty next)
  | [a], next, code => a.make next code
  | a :: as, next, code =>
    let others := Form.makeFirst as next code
    let first := a.make next others.code
    Piece.emit first.code (.split first.entry others.entry)

end

/-- the program of a form -/
def Form.program (f : Form) : Program :=
  let p := f.make 0 #[.accept]
  ⟨p.code, p.entry⟩

end Lexicon.Expression
