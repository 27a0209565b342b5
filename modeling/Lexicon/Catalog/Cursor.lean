/-
Cursors over the entries of a catalog. A cursor holds the entries not yet handed out and can hand out the first or
the last of them. Cursors do not share anything: in a table of cursors, a move concerns the cursor it names.
-/
import Lexicon.Catalog.Basic

namespace Lexicon

/-- the entries not yet handed out -/
structure Cursor (α : Type) where
  left : Entries Key α

namespace Cursor

variable {α : Type}

/-- a cursor at the start of a catalog -/
def of (s : Catalog α) : Cursor α := ⟨s.entries⟩

/-- hands out the first entry left -/
def next (c : Cursor α) : Option (Key × α) × Cursor α :=
  match c.left with
  | [] => (none, c)
  | e :: rest => (some e, ⟨rest⟩)

/-- hands out the last entry left -/
def nextBack (c : Cursor α) : Option (Key × α) × Cursor α :=
  match c.left.getLast? with
  | none => (none, c)
  | some e => (some e, ⟨c.left.dropLast⟩)

/-- how many entries are left -/
def size (c : Cursor α) : Nat := c.left.length

/-- bounds on how many entries are left -/
def sizeHint (c : Cursor α) : Nat × Option Nat := (c.size, some c.size)

/-- what can be asked of a cursor -/
inductive Move where
  | next
  | nextBack
  | size
  | sizeHint
  deriving DecidableEq

/-- what a cursor answers -/
inductive Answer (α : Type) where
  | entry (e : Option (Key × α))
  | size (n : Nat)
  | sizeHint (low : Nat) (high : Option Nat)

/-- one move of a cursor -/
def step (c : Cursor α) : Move → Answer α × Cursor α
  | .next => (.entry c.next.1, c.next.2)
  | .nextBack => (.entry c.nextBack.1, c.nextBack.2)
  | .size => (.size c.size, c)
  | .sizeHint => (.sizeHint c.sizeHint.1 c.sizeHint.2, c)

/-- one move of the cursor with a number; no such cursor, no answer -/
def stepAt (cs : List (Cursor α)) (i : Nat) (m : Move) : Option (Answer α) × List (Cursor α) :=
  match cs[i]? with
  | none => (none, cs)
  | some c => (some (c.step m).1, cs.set i (c.step m).2)

/-- moves of numbered cursors, with their answers in order -/
def runAll (cs : List (Cursor α)) : List (Nat × Move) → List (Option (Answer α)) × List (Cursor α)
  | [] => ([], cs)
  | (i, m) :: rest =>
    let (answer, cs) := stepAt cs i m
    let (answers, cs) := runAll cs rest
    (answer :: answers, cs)

end Cursor

end Lexicon
