/-
A memory of what was made before. A thing is known by its key, a list of numbers. The memory has a fixed number of
places; the place of a key is its hash, and a later key takes the place of an earlier one. So a thing may be
forgotten, but what is recalled is what was kept last for that very key.
-/

namespace Lexicon.Expression

/-- places numbered in binary, the lowest digit first -/
inductive Places (α : Type) where
  | bare
  | filled (value : α)
  | fork (even odd : Places α)

namespace Places

/-- what stands at a place -/
def get? {α : Type} : Places α → Nat → Option α
  | .bare, _ => none
  | .filled a, _ => some a
  | .fork even odd, n => if n % 2 = 0 then even.get? (n / 2) else odd.get? (n / 2)

/-- the places with numbers of the given parity -/
def half {α : Type} (isOdd : Bool) : Places α → Places α
  | .fork even odd => if isOdd then odd else even
  | _ => .bare

/-- puts a value at a place; the numbers of places have `depth` binary digits -/
def put {α : Type} (a : α) : Nat → Nat → Places α → Places α
  | 0, _, _ => .filled a
  | depth + 1, n, p =>
    if n % 2 = 0 then .fork (put a depth (n / 2) (p.half false)) (p.half true)
    else .fork (p.half false) (put a depth (n / 2) (p.half true))

end Places

/-- a memory: what it keeps of each thing is the number under which it was made -/
structure Recall where
  /-- how many places there are -/
  size : Nat
  kept : Places (List Nat × Nat)

namespace Recall

/-- the memory of the given size that keeps nothing -/
def empty (size : Nat) : Recall := ⟨size, .bare⟩

/-- the hash of a key: each number is mixed in by an exclusive or and a multiplication -/
def hash (key : List Nat) : UInt64 :=
  key.foldl (fun h n => (h ^^^ n.toUInt64) * 1099511628211) 14695981039346656037

/-- the place of a key -/
def place (r : Recall) (key : List Nat) : Nat := (hash key).toNat % r.size

/-- the number kept for a key -/
def get? (r : Recall) (key : List Nat) : Option Nat :=
  match r.kept.get? (r.place key) with
  | some (k, n) => if k = key then some n else none
  | none => none

/-- keeps a number for a key -/
def keep (r : Recall) (key : List Nat) (n : Nat) : Recall :=
  ⟨r.size, r.kept.put (key, n) r.size.log2.succ (r.place key)⟩

end Recall

end Lexicon.Expression
