/-
Entries in the order of insertion. `put` replaces the item at a key where it stands and appends an entry for a new
key; `erase` takes an entry out and leaves the others in order. Where the keys are distinct to begin with, they stay
distinct.
-/

namespace Lexicon

/-- keys with their items, in order -/
abbrev Entries (κ α : Type) := List (κ × α)

namespace Entries

variable {κ α : Type} [DecidableEq κ]

/-- the item at a key -/
def at? (k : κ) : Entries κ α → Option α
  | [] => none
  | (k', x) :: rest => if k' = k then some x else at? k rest

/-- stores an item at a key -/
def put (k : κ) (x : α) : Entries κ α → Entries κ α
  | [] => [(k, x)]
  | (k', y) :: rest => if k' = k then (k', x) :: rest else (k', y) :: put k x rest

/-- takes the entry at a key out -/
def erase (k : κ) : Entries κ α → Entries κ α
  | [] => []
  | (k', y) :: rest => if k' = k then rest else (k', y) :: erase k rest

/-- the keys in order -/
def keys (es : Entries κ α) : List κ := es.map Prod.fst

/-- the items in order -/
def items (es : Entries κ α) : List α := es.map Prod.snd

/-- entries stored one after the other -/
def collect (es : List (κ × α)) : Entries κ α := es.foldl (fun acc e => put e.1 e.2 acc) []

end Entries

end Lexicon
