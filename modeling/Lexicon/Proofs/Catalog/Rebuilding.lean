/-
Catalogs made again from what they hold. Gathering the entries of a catalog under its validator gives it back if the
validator accepts each of them and no key comes twice, which is the invariant of every reachable catalog
(`ofEntries_entries`); under a test that tells an item from its copy it does so exactly if nothing stored is refused
(`ofEntries_entries_iff`). Items stored anew without their keys are keyed by position, and so are those that a selection
of everything keeps; keys by position are the keys of the catalog itself only if they were so before
(`entries_eq_numbered_iff`).

Results: `rebuilding_restores`, with `Rebuilds` for what comes back.
-/
import Lexicon.Proofs.Catalog.Construction
import Lexicon.Proofs.Catalog.Views

namespace Lexicon.Catalog

open Validator

variable {α : Type} {s : Catalog α}

/-! ## items keyed anew -/

theorem entries_eq_numbered_iff : s.entries = numbered s.items ↔ s.keys = (List.range s.size).map Key.position := by
  rw [← length_items, ← keys_numbered]
  constructor
  · intro h
    rw [← h]
    rfl
  · intro hkeys
    calc s.entries = s.keys.zip s.items := List.zip_of_prod rfl rfl
      _ = numbered s.items := (List.zip_of_prod hkeys.symm (items_numbered s.items)).symm

/-- the keys are the integers from 0 on, in order -/
def Dense (s : Catalog α) : Prop := List.Forall₂ Key.IsIndex s.keys (List.range s.size)

/-- Items under dense keys are keyed by their positions. -/
theorem dense_iff (h : s.size ≤ maxItems) : s.Dense ↔ s.entries = numbered s.items := by
  rw [entries_eq_numbered_iff, Dense]
  constructor
  · intro hdense
    have hpositions : List.Forall₂ (fun k n => k = Key.position n) s.keys (List.range s.size) :=
      hdense.imp fun _ _ hk => (isIndex_iff.1 hk).2
    rwa [← List.forall₂_map_right_iff, List.forall₂_eq_eq_eq] at hpositions
  · intro hkeys
    rw [hkeys, List.forall₂_map_left_iff, List.forall₂_same]
    intro n hn
    have hlt := List.mem_range.1 hn
    exact isIndex_iff.2 ⟨by omega, rfl⟩

theorem dense_numbered {xs : List α} (h : xs.length ≤ maxItems) (v : Validator α) : Dense ⟨numbered xs, v⟩ := by
  have hitems : items ⟨numbered xs, v⟩ = xs := items_numbered xs
  have hsize : size ⟨numbered xs, v⟩ ≤ maxItems := by rwa [size_numbered]
  exact (dense_iff hsize).2 (congrArg numbered hitems).symm

theorem entries_ofItems {xs : List α} (h : xs.length ≤ maxItems) : (ofItems xs).entries = numbered xs :=
  collect_numbered h

theorem filter_eq (h : s.size ≤ maxItems) (p : α → Bool) :
    s.filter p = ⟨numbered (s.items.filter p), s.validator⟩ := by
  change (⟨Entries.collect (numbered (s.items.filter p)), s.validator⟩ : Catalog α) = _
  rw [collect_numbered (Nat.le_trans (s.length_filter_items_le p) h)]

theorem entries_filter_true (h : s.size ≤ maxItems) : (s.filter fun _ => true).entries = numbered s.items := by
  rw [filter_eq h, List.filter_true]

variable [Typed α] {C : Copying α}

/-- copies of items, keyed by their positions, are copies of the items keyed so -/
theorem forall₂_numbered {xs ys : List α} (h : List.Forall₂ C.copies xs ys) :
    List.Forall₂ C.CopiesEntry (numbered xs) (numbered ys) := by
  have hfrom (n : Nat) : List.Forall₂ C.CopiesEntry
      ((xs.zipIdx n).map fun p => (Key.position p.2, p.1)) ((ys.zipIdx n).map fun p => (Key.position p.2, p.1)) := by
    induction h generalizing n with
    | nil => exact .nil
    | cons hxy _ ih => exact .cons ⟨rfl, hxy⟩ (ih (n + 1))
  exact hfrom 0

/-- Copies keyed by position stand under the keys of the catalog exactly if its keys are the positions. -/
theorem copies_numbered_iff {ys : List α} (h : List.Forall₂ C.copies s.items ys) :
    List.Forall₂ C.CopiesEntry s.entries (numbered ys) ↔ s.keys = (List.range s.size).map Key.position := by
  have hnumbered := forall₂_numbered h
  constructor
  · intro hcopies
    have hkeys : Entries.keys (numbered s.items) = s.keys :=
      (Copying.keys_eq_of_copies hnumbered).symm.trans (Copying.keys_eq_of_copies hcopies)
    rw [← hkeys, keys_numbered, length_items]
  · intro hkeys
    rwa [entries_eq_numbered_iff.2 hkeys]

/-! ## entries gathered again -/

theorem ofEntries_entries (h : s.Valid) : ofEntries s.entries s.validator = .done s := by
  rw [ofEntries_eq, offender?_eq_none.2 h.accepted, Entries.collect_eq h.distinct]

/-- Whatever the validators, the entries give the catalog back exactly if none of them is refused. -/
theorem ofEntries_entries_iff (h : Made C s) :
    (ofEntries s.entries s.validator).result = .ok s ↔ ∀ e ∈ s.entries, s.validator.accepts e.2 = true := by
  rw [ofEntries_ok, Entries.collect_eq h.distinct]
  exact and_iff_left rfl

/-- a catalog made again from its entries and from its items -/
structure Rebuilds (C : Copying α) (s : Catalog α) : Prop where
  ofConsumed : ∀ (w : Workspace α) on, w.at? on = some s →
    ∃ es, w.step (.consume on) = some (w.erase on, .done (.entries es)) ∧ ofEntries es s.validator = .done s
  ofCopies : s.size ≤ maxItems → ∀ (copy : Nat → α → α) (t : Catalog α), (∀ n x, C.copies x (copy n x)) →
    C.Copied (s.filter fun _ => true) t →
      List.Forall₂ C.CopiesEntry (numbered s.items) (ofItems (s.itemCopies copy)).entries ∧
        List.Forall₂ C.CopiesEntry (numbered s.items) t.entries ∧
        (List.Forall₂ C.CopiesEntry s.entries (ofItems (s.itemCopies copy)).entries ↔
          s.keys = (List.range s.size).map Key.position)
  ofOwnItems : s.size ≤ maxItems → (ofItems s.items).entries = (s.filter fun _ => true).entries ∧
    ((ofItems s.items).entries = s.entries ↔ s.keys = (List.range s.size).map Key.position)

theorem Reachable.rebuilds (h : Reachable C s) : s.Rebuilds C where
  ofConsumed w on hon := ⟨s.entries, by simp [Workspace.step, hon], ofEntries_entries h.valid⟩
  ofCopies hsize copy t hcopy ht := by
    have hcopies := forall₂_itemCopies hcopy s
    have hlength : (s.itemCopies copy).length ≤ maxItems := by rwa [← hcopies.length_eq, length_items]
    rw [entries_ofItems hlength]
    refine ⟨forall₂_numbered hcopies, ?_, copies_numbered_iff hcopies⟩
    have hselected := ht.2
    rwa [entries_filter_true hsize] at hselected
  ofOwnItems hsize := by
    have hlength : s.items.length ≤ maxItems := by rwa [length_items]
    rw [entries_ofItems hlength, entries_filter_true hsize]
    exact ⟨rfl, eq_comm.trans entries_eq_numbered_iff⟩

/-- **Rebuilding is the identity.** For every reachable catalog, the entries it gives when consumed, gathered under its
validator, are the very catalog again. Copies of its items stored anew have the entries that a selection of everything
has, up to copies: the items keyed by position. They are the catalog's own entries exactly if its keys are the positions
in order. For values, which are their own copies, these are equalities. Under a validator that tells an item from its
copy, the entries give the catalog back exactly if none of them is refused. -/
theorem rebuilding_restores (C : Copying α) :
    (∀ s, Reachable C s → s.Rebuilds C) ∧
      ∀ s, Made C s →
        ((ofEntries s.entries s.validator).result = .ok s ↔ ∀ e ∈ s.entries, s.validator.accepts e.2 = true) :=
  ⟨fun _ h => h.rebuilds, fun _ h => ofEntries_entries_iff h⟩

/-- boxes under a name and an index, of which one is overwritten and one removed behind a push -/
def keptBoxes : Catalog (Handle Scalar) :=
  let made : Catalog (Handle Scalar) := ⟨[(.name "a", box 1 0), (.index 3, box 2 1)], .ofType ⟨"i32"⟩⟩
  let overwritten := (made.insert (.name "a") (box 3 2)).catalog
  ((overwritten.push (box 4 3)).catalog.remove (.index 3)).catalog

/-- a copy of a box whose validator accepts it at its first place only -/
def movedBox : Catalog (Handle Scalar) :=
  (⟨[(.index 0, box 1 0)], .test fun h => h.place == 0⟩ : Catalog (Handle Scalar)).copyHandles 1

theorem keptBoxes_restored :
    keptBoxes.Reachable (.handles Scalar) ∧ keptBoxes.keys = [.name "a", .index 4] ∧
      ofEntries [(.name "a", box 3 2), (.index 4, box 4 3)] (.ofType ⟨"i32"⟩) = .done keptBoxes ∧
      (ofItems (keptBoxes.itemCopies fun n h => h.copy (5 + n))).entries =
        [(.index 0, box 3 5), (.index 1, box 4 6)] ∧
      ¬ List.Forall₂ (Copying.handles Scalar).CopiesEntry keptBoxes.entries
        (ofItems (keptBoxes.itemCopies fun n h => h.copy (5 + n))).entries ∧
      (ofEntries movedBox.entries movedBox.validator).result ≠ .ok movedBox := by
  have hkeys : keptBoxes.keys = [.name "a", .index 4] := by decide +kernel
  have hfaithful : (Validator.ofType ⟨"i32"⟩ : Validator (Handle Scalar)).Faithful (.handles Scalar) := trivial
  have hmade : (ofEntries [(.name "a", box 1 0), (.index 3, box 2 1)] (.ofType ⟨"i32"⟩)).result =
      .ok ⟨[(.name "a", box 1 0), (.index 3, box 2 1)], .ofType ⟨"i32"⟩⟩ := rfl
  have hreachable : keptBoxes.Reachable (.handles Scalar) :=
    (((Reachable.ofEntries hfaithful hmade).insert _ _).push _).remove _
  have hplaced : (ofEntries [(.index 0, box 1 0)] (.test fun h => h.place == 0)).result =
      .ok ⟨[(.index 0, box 1 0)], .test fun h => h.place == 0⟩ := rfl
  have hmoved : Made (.handles Scalar) movedBox := (Made.ofEntries hplaced).copy (Copying.copied_copyHandles _ 1)
  obtain ⟨hreached, hstray⟩ := rebuilding_restores (.handles Scalar)
  have hrebuilds := hreached keptBoxes hreachable
  obtain ⟨es, hstep, hagain⟩ := hrebuilds.ofConsumed [("s", keptBoxes)] "s" rfl
  cases hstep
  obtain ⟨-, -, hiff⟩ := hrebuilds.ofCopies (by decide +kernel) (fun n h => h.copy (5 + n)) _
    (fun n h => Copying.handles_copy h (5 + n)) (Copying.copied_copyHandles _ 5)
  refine ⟨hreachable, hkeys, hagain, rfl, fun hcopies => ?_, fun hsame => ?_⟩
  · have hpositions := hiff.1 hcopies
    rw [hkeys] at hpositions
    cases hpositions
  · have haccepted := (hstray movedBox hmoved).1 hsame (.index 0, box 1 1) List.mem_cons_self
    cases haccepted

end Lexicon.Catalog
