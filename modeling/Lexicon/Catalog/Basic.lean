/-
Validated sets. A catalog holds items under keys in the order of insertion, together with the validator that has
accepted every one of them. Every way of adding an item checks it first; an operation that fails leaves the catalog
as it was. `Change` is what an operation on a catalog leaves behind: the catalog after it, its answer or failure,
and what it told the log.
-/
import Lexicon.Catalog.Entries
import Lexicon.Text.Grid
import Lexicon.Validator

namespace Lexicon

/-- items under keys, and the rule they satisfy -/
structure Catalog (α : Type) where
  entries : Entries Key α
  validator : Validator α

/-- what an operation leaves behind -/
structure Change (α β : Type) where
  catalog : Catalog α
  outcome : Attempt β

namespace Catalog

variable {α : Type}

/-- items with their positions as keys -/
def numbered (items : List α) : List (Key × α) := items.zipIdx.map fun (x, n) => (Key.position n, x)

/-! ## making catalogs -/

/-- no items, no rule -/
def empty : Catalog α := ⟨[], .free⟩

/-- items keyed by their positions, without a rule -/
def ofItems (items : List α) : Catalog α := ⟨Entries.collect (numbered items), .free⟩

/-- stores entries one after the other, each being checked first -/
def gather [Typed α] (v : Validator α) (acc : Entries Key α) : List (Key × α) → Attempt (Entries Key α)
  | [] => .done acc
  | (k, x) :: rest => (v.check k x).andThen fun _ => gather v (acc.put k x) rest

/-- entries under a rule; a repeated key replaces the earlier item where it stands -/
def ofEntries [Typed α] (entries : List (Key × α)) (v : Validator α) : Attempt (Catalog α) :=
  (gather v [] entries).andThen fun es => .done ⟨es, v⟩

/-- items keyed by their positions, under a rule -/
def withValidator [Typed α] (items : List α) (v : Validator α) : Attempt (Catalog α) :=
  ofEntries (numbered items) v

/-- the items that pass a test, in order and keyed anew, under the same rule -/
def filter (p : α → Bool) (s : Catalog α) : Catalog α :=
  ⟨Entries.collect (numbered (s.entries.items.filter p)), s.validator⟩

/-- the items that do not pass a test, in order and keyed anew, under the same rule -/
def exclude (p : α → Bool) (s : Catalog α) : Catalog α := s.filter fun x => !p x

/-! ## reading -/

/-- the keys in order -/
def keys (s : Catalog α) : List Key := s.entries.keys

/-- the items in order -/
def items (s : Catalog α) : List α := s.entries.items

/-- copies of the items in order; a copy may depend on its position -/
def itemCopies (copy : Nat → α → α) (s : Catalog α) : List α := s.items.zipIdx.map fun (x, n) => copy n x

/-- how many items there are -/
def size (s : Catalog α) : Nat := s.entries.length

/-- whether there are no items -/
def isEmpty (s : Catalog α) : Bool := s.entries.isEmpty

/-- the item at a key -/
def get (s : Catalog α) (k : Key) : Except Failure α :=
  match s.entries.at? k with
  | some x => .ok x
  | none => .error (.of (.keyNotFound k))

/-- whether there is an item at a key -/
def containsKey (s : Catalog α) (k : Key) : Bool := (s.entries.at? k).isSome

/-- whether the very item is stored -/
def contains [Identical α] (s : Catalog α) (x : α) : Bool := s.items.any fun y => isIdentical y x

/-- whether an item passes the test -/
def hasMatching (s : Catalog α) (p : α → Bool) : Bool := s.items.any p

/-- whether two catalogs hold the same entries in the same order -/
def sameEntries [BEq α] (s t : Catalog α) : Bool :=
  s.size == t.size && (s.entries.zip t.entries).all fun (a, b) => a.1 == b.1 && a.2 == b.2

/-- the displayed items with a text between them -/
def join [Presented α] (s : Catalog α) (separator : String) : String :=
  String.intercalate separator (s.items.map display)

/-- the catalog as a table of keys and items -/
def table [Presented α] (s : Catalog α) : String :=
  Grid.render (["key", "value"] :: s.entries.map fun (k, x) => [k.text, display x])

/-- the shape of a catalog: its entries -/
def dump [Presented α] (s : Catalog α) : Dump := .map (s.entries.map fun (k, x) => (k.dump, Presented.dump x))

/-! ## changing -/

/-- stores an item at a key and answers with the item it replaces -/
def insert [Typed α] (s : Catalog α) (k : Key) (x : α) : Change α (Option α) :=
  let checked := s.validator.check k x
  match checked.result with
  | .error f => ⟨s, ⟨.error f, checked.log⟩⟩
  | .ok _ => ⟨⟨s.entries.put k x, s.validator⟩, ⟨.ok (s.entries.at? k), checked.log⟩⟩

/-- the greatest index among keys -/
def greatestIndex? (keys : List Key) : Option Int64 :=
  (keys.filterMap Key.index?).foldl
    (fun best i => some (match best with | none => i | some j => if j < i then i else j)) none

/-- one past the greatest index in use, never negative -/
def nextIndex (s : Catalog α) : Except Failure Int64 :=
  match greatestIndex? s.keys with
  | none => .ok 0
  | some i =>
    if i = Int64.maxValue then .error (.of (.indexOverflow i))
    else .ok (if i + 1 < 0 then 0 else i + 1)

/-- appends an item behind the greatest index and answers with its key -/
def push [Typed α] (s : Catalog α) (x : α) : Change α Key :=
  match s.nextIndex with
  | .error f => ⟨s, .fail f⟩
  | .ok i =>
    let change := s.insert (.index i) x
    ⟨change.catalog, change.outcome.andThen fun _ => .done (.index i)⟩

/-- takes the item at a key out and answers with it; the others keep their order -/
def remove (s : Catalog α) (k : Key) : Change α (Option α) :=
  ⟨⟨s.entries.erase k, s.validator⟩, .done (s.entries.at? k)⟩

/-- replaces the rule, after checking every item against the new one -/
def setValidator [Typed α] (s : Catalog α) (v : Validator α) : Change α Unit :=
  let checked := v.checkAll s.entries
  match checked.result with
  | .error f => ⟨s, ⟨.error f, checked.log ++ [.refused f]⟩⟩
  | .ok _ => ⟨⟨s.entries, v⟩, ⟨.ok (), checked.log⟩⟩

end Catalog

end Lexicon
