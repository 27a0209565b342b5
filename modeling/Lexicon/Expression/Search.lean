/-
Running a program. At each place of the input `Sweep` follows the instructions that take no character, in order of
preference and each at most once, up to the first that accepts; what is preferred less than an accepted match is
dropped. The instructions left that take the next character go on behind it. `Program.search?` tries every place of
the input as the start of a match and takes the first that has one.
-/
import Lexicon.Expression.Program
import Lexicon.Unicode.Property

namespace Lexicon.Expression

/-! ## places -/

/-- whether c belongs to a word -/
def isWordChar (ascii : Bool) (c : Char) : Bool :=
  if ascii then c.isAlphanum || c == '_' else Unicode.wordSet.contains c

/-- whether there is such an edge between what is before (in a word or not) and what is after -/
def WordEdge.holds : WordEdge → Bool → Bool → Bool
  | .edge, before, after => before != after
  | .notEdge, before, after => before == after
  | .start, before, after => !before && after
  | .stop, before, after => before && !after
  | .startHalf, before, _ => !before
  | .stopHalf, _, after => !after

/-- whether a place, between the character before and the one after, is as asked -/
def Look.holds (before after : Option Char) : Look → Bool
  | .textStart => before.isNone
  | .textEnd => after.isNone
  | .lineStart => before.isNone || before == some '\n'
  | .lineEnd => after.isNone || after == some '\n'
  | .lineStartCrlf => before.isNone || before == some '\n' || (before == some '\r' && after != some '\n')
  | .lineEndCrlf => after.isNone || after == some '\r' || (after == some '\n' && before != some '\r')
  | .word side ascii => side.holds (before.any (isWordChar ascii)) (after.any (isWordChar ascii))

/-! ## runs -/

/-- what has been reached at a place: instructions seen, those that take a character (the latest first), and
whether a match was accepted -/
structure Sweep where
  seen : Array Bool
  waiting : List Instr
  accepted : Bool

namespace Program

/-- nothing reached yet -/
def noSweep (p : Program) : Sweep := ⟨Array.replicate p.code.size false, [], false⟩

/-- follows the instructions of a list in order, `fuel` bounding the steps -/
def sweep (p : Program) (before after : Option Char) : Nat → List Nat → Sweep → Sweep
  | 0, _, s => s
  | _, [], s => s
  | fuel + 1, i :: rest, s =>
    if s.seen.getD i true then p.sweep before after fuel rest s
    else
      let seen := s.seen.setIfInBounds i true
      match p.code.getD i .accept with
      | .accept => ⟨seen, s.waiting, true⟩
      | .look l next =>
        p.sweep before after fuel (if l.holds before after then next :: rest else rest) ⟨seen, s.waiting, false⟩
      | .split first second => p.sweep before after fuel (first :: second :: rest) ⟨seen, s.waiting, false⟩
      | i => p.sweep before after fuel rest ⟨seen, i :: s.waiting, false⟩

/-- the steps that a sweep from n instructions may take -/
def sweepBound (p : Program) (n : Nat) : Nat := n + 2 * p.code.size + 1

end Program

/-- where an instruction goes on behind the character c, if it takes it -/
def Instr.after? (c : Char) : Instr → Option Nat
  | .char d next => if c = d then some next else none
  | .set s next => if s.contains c then some next else none
  | _ => none

/-- where waiting instructions go on behind the character c, in order of preference -/
def Sweep.after (s : Sweep) (c : Char) : List Nat := s.waiting.reverse.filterMap (Instr.after? c)

namespace Program

/-- the length of the match that starts `taken` characters back, given the instructions reached here and the best
match so far -/
def run (p : Program) (before : Option Char) : List Char → List Nat → Nat → Option Nat → Option Nat
  | [], reached, taken, best =>
    let s := p.sweep before none (p.sweepBound reached.length) reached p.noSweep
    if s.accepted then some taken else best
  | c :: cs, reached, taken, best =>
    match reached with
    | [] => best
    | _ =>
      let s := p.sweep before (some c) (p.sweepBound reached.length) reached p.noSweep
      p.run (some c) cs (s.after c) (taken + 1) (if s.accepted then some taken else best)

/-- the length of the match at the front of a text, given the character before it -/
def matchAt? (p : Program) (before : Option Char) (text : List Char) : Option Nat :=
  p.run before text [p.entry] 0 none

/-- the first place with a match, `start` characters in, and the length of the match there -/
def searchFrom? (p : Program) (before : Option Char) (start : Nat) : List Char → Option (Nat × Nat)
  | [] => (p.matchAt? before []).map fun n => (start, n)
  | c :: cs =>
    match p.matchAt? before (c :: cs) with
    | some n => some (start, n)
    | none => p.searchFrom? (some c) (start + 1) cs

/-- the first match in a text: where it starts and how long it is -/
def search? (p : Program) (text : List Char) : Option (Nat × Nat) := p.searchFrom? none 0 text

/-- the text of the first match -/
def find? (p : Program) (text : List Char) : Option (List Char) :=
  (p.search? text).map fun (start, n) => (text.drop start).take n

end Program

end Lexicon.Expression
