/-
Runs over several catalogs. A workspace holds catalogs in named slots; `Op` lists the operations that make, change or
consult them, and `step` performs one. A making operation that fails leaves its slot as it was; an operation on an
empty slot does nothing and has no answer.
-/
import Lexicon.Catalog.Basic

namespace Lexicon

/-- catalogs in named slots -/
abbrev Workspace (α : Type) := Entries String (Catalog α)

namespace Workspace

variable {α : Type}

/-- the operations; `into` is the slot of the catalog made, `on` that of the catalog worked on -/
inductive Op (α : Type) where
  | empty (into : String)
  | ofItems (into : String) (items : List α)
  | withValidator (into : String) (items : List α) (v : Validator α)
  | ofEntries (into : String) (entries : List (Key × α)) (v : Validator α)
  | copy (on into : String)
  | filter (on into : String) (p : α → Bool)
  | exclude (on into : String) (p : α → Bool)
  | insert (on : String) (k : Key) (x : α)
  | push (on : String) (x : α)
  | remove (on : String) (k : Key)
  | setValidator (on : String) (v : Validator α)
  | consume (on : String)
  | get (on : String) (k : Key)
  | containsKey (on : String) (k : Key)

/-- what an operation answers -/
inductive Answer (α : Type) where
  | done
  | item (x : α)
  | former (x : Option α)
  | key (k : Key)
  | size (n : Nat)
  | flag (b : Bool)
  | entries (es : Entries Key α)

/-- puts a catalog that was made into its slot -/
def make (w : Workspace α) (into : String) (a : Attempt (Catalog α)) : Workspace α × Attempt (Answer α) :=
  match a.result with
  | .error f => (w, ⟨.error f, a.log⟩)
  | .ok s => (w.put into s, ⟨.ok .done, a.log⟩)

/-- puts a changed catalog back into its slot -/
def change {β : Type} (w : Workspace α) (on : String) (c : Change α β) (answer : β → Answer α) :
    Workspace α × Attempt (Answer α) :=
  (w.put on c.catalog, c.outcome.andThen fun b => .done (answer b))

/-- performs an operation; none if the slot it works on is empty -/
def step [Typed α] (w : Workspace α) : Op α → Option (Workspace α × Attempt (Answer α))
  | .empty into => some (w.make into (.done .empty))
  | .ofItems into items => some (w.make into (.done (.ofItems items)))
  | .withValidator into items v => some (w.make into (Catalog.withValidator items v))
  | .ofEntries into entries v => some (w.make into (Catalog.ofEntries entries v))
  | .copy on into => (w.at? on).map fun s => w.make into (.done s)
  | .filter on into p => (w.at? on).map fun s => w.make into (.done (s.filter p))
  | .exclude on into p => (w.at? on).map fun s => w.make into (.done (s.exclude p))
  | .insert on k x => (w.at? on).map fun s => w.change on (s.insert k x) .former
  | .push on x => (w.at? on).map fun s => w.change on (s.push x) .key
  | .remove on k => (w.at? on).map fun s => w.change on (s.remove k) .former
  | .setValidator on v => (w.at? on).map fun s => w.change on (s.setValidator v) fun _ => .size s.size
  | .consume on => (w.at? on).map fun s => (w.erase on, .done (.entries s.entries))
  | .get on k => (w.at? on).map fun s => (w, ⟨(s.get k).map .item, []⟩)
  | .containsKey on k => (w.at? on).map fun s => (w, .done (.flag (s.containsKey k)))

/-- performs operations in order, with what each of them answered and told the log -/
def run [Typed α] (w : Workspace α) : List (Op α) → Workspace α × List (Option (Attempt (Answer α)))
  | [] => (w, [])
  | op :: ops =>
    match w.step op with
    | none =>
      let later := run w ops
      (later.1, none :: later.2)
    | some (w', a) =>
      let later := run w' ops
      (later.1, some a :: later.2)

end Workspace

end Lexicon
