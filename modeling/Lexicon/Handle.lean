/-
Handles: items that stand at a place in memory. Two handles are identical when they stand at one place, and equal
when their values are. A copy of a shared handle stands at the same place; a copy of a box takes a place of its own.
-/
import Lexicon.Catalog.Basic

namespace Lexicon

/-- whether copies of a handle share its place -/
inductive Sharing where
  | shared
  | boxed
  deriving DecidableEq

/-- a value at a place -/
structure Handle (α : Type) where
  sharing : Sharing
  place : Nat
  value : α

namespace Handle

variable {α : Type}

/-- a copy of a handle, for which there is a fresh place if it needs one -/
def copy (fresh : Nat) (h : Handle α) : Handle α :=
  match h.sharing with
  | .shared => h
  | .boxed => { h with place := fresh }

instance [BEq α] : BEq (Handle α) := ⟨fun a b => a.value == b.value⟩

instance [Typed α] : Typed (Handle α) := ⟨fun h => typeName h.value, fun h tag => isA h.value tag⟩

instance : Identical (Handle α) := ⟨fun a b => a.place == b.place⟩

instance [Presented α] : Presented (Handle α) := ⟨fun h => display h.value, fun h => Presented.dump h.value⟩

/-- copies of handles, the first fresh place being given -/
def copyAll (fresh : Nat) (hs : List (Handle α)) : List (Handle α) :=
  hs.zipIdx.map fun (h, n) => h.copy (fresh + n)

end Handle

/-- a copy of a catalog of handles, the first fresh place being given -/
def Catalog.copyHandles {α : Type} (fresh : Nat) (s : Catalog (Handle α)) : Catalog (Handle α) :=
  ⟨s.keys.zip (Handle.copyAll fresh s.items), s.validator⟩

end Lexicon
