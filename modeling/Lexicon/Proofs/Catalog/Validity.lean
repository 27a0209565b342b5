/-
What holds of every catalog that the operations can make. `Valid`: the validator in force accepts every stored item,
and no two entries have one key. `Reachable` lists the ways to make a catalog: from nothing, from items or entries
under a validator, as a copy or a selection of another, or by a change, whether the change succeeds or fails.

Copies and selections hold copies of items, and a copy need not be its original: a copied box stands at a place of its
own. `Copying` says which items are copies of which; a copy satisfies the type tags of its original. A test is
`Faithful` when it gives an item and its copy one verdict; type tags always do.

Results:
- `items_accepted_keys_distinct`: every reachable catalog is valid;
- `run_reachable`: so is every catalog in every slot after any run over a workspace, where values are their own
  copies.
-/
import Mathlib.Data.List.Forall2
import Lexicon.Catalog.Symbols
import Lexicon.Catalog.Workspace
import Lexicon.Handle
import Lexicon.Proofs.Catalog.Changes
import Lexicon.Scalar

namespace Lexicon

/-! ## copies -/

/-- which items are copies of which: `copies x y` when y is a copy of x -/
structure Copying (α : Type) [Typed α] where
  copies : α → α → Prop
  sameTags : ∀ {x y : α}, copies x y → ∀ tag, isA y tag = isA x tag

namespace Copying

variable {α : Type} [Typed α]

/-- a value is its own copy -/
def values (α : Type) [Typed α] : Copying α := ⟨fun x y => y = x, fun h _ => h ▸ rfl⟩

/-- a copy of a handle holds the same value, wherever it stands -/
def handles (α : Type) [Typed α] : Copying (Handle α) :=
  ⟨fun x y => y.value = x.value, fun h tag => congrArg (fun v : α => isA v tag) h⟩

/-- an entry with a copy of an item, under the key of the item -/
def CopiesEntry (C : Copying α) (e f : Key × α) : Prop := f.1 = e.1 ∧ C.copies e.2 f.2

/-- a catalog with copies of the items of another, under its keys and its validator -/
def Copied (C : Copying α) (s t : Catalog α) : Prop :=
  t.validator = s.validator ∧ List.Forall₂ C.CopiesEntry s.entries t.entries

theorem copied_values (s : Catalog α) : (values α).Copied s s :=
  ⟨rfl, List.forall₂_same.2 fun _ _ => ⟨rfl, rfl⟩⟩

theorem keys_eq_of_copies {C : Copying α} {es fs : Entries Key α} (h : List.Forall₂ C.CopiesEntry es fs) :
    fs.keys = es.keys := by
  induction h with
  | nil => rfl
  | cons he _ ih => exact congrArg₂ List.cons he.1 ih

theorem exists_original {C : Copying α} {es fs : Entries Key α} (h : List.Forall₂ C.CopiesEntry es fs)
    {f : Key × α} (hf : f ∈ fs) : ∃ e ∈ es, C.CopiesEntry e f := by
  induction h with
  | nil => simp at hf
  | cons he _ ih =>
    rcases List.mem_cons.1 hf with rfl | hf
    · exact ⟨_, List.mem_cons_self, he⟩
    · obtain ⟨e, hmem, hcopy⟩ := ih hf
      exact ⟨e, List.mem_cons_of_mem _ hmem, hcopy⟩

theorem handles_copy (h : Handle α) (fresh : Nat) : (handles α).copies h (h.copy fresh) := by
  unfold Handle.copy
  cases h.sharing <;> rfl

theorem copied_numbered {C : Copying (Handle α)} (hC : ∀ h fresh, C.copies h (h.copy fresh))
    (es : Entries Key (Handle α)) (fresh n : Nat) :
    List.Forall₂ C.CopiesEntry es (es.keys.zip ((es.items.zipIdx n).map fun (h, m) => h.copy (fresh + m))) := by
  induction es generalizing n with
  | nil => exact .nil
  | cons e rest ih => exact .cons ⟨rfl, hC e.2 (fresh + n)⟩ (ih (n + 1))

/-- the copy of a catalog of handles is a copy of it in this sense -/
theorem copied_copyHandles (s : Catalog (Handle α)) (fresh : Nat) : (handles α).Copied s (s.copyHandles fresh) :=
  ⟨rfl, copied_numbered handles_copy s.entries fresh 0⟩

end Copying

/-- tests give an item and its copy one verdict -/
def Validator.Faithful {α : Type} [Typed α] (C : Copying α) : Validator α → Prop
  | .test p => ∀ x y, C.copies x y → p y = p x
  | _ => True

theorem Validator.accepts_copy {α : Type} [Typed α] {C : Copying α} {v : Validator α} (hv : v.Faithful C) {x y : α}
    (h : C.copies x y) : v.accepts y = v.accepts x := by
  cases v with
  | free => rfl
  | test p => exact hv x y h
  | ofType tag => exact C.sameTags h tag.text

theorem Validator.faithful_values {α : Type} [Typed α] (v : Validator α) : v.Faithful (.values α) := by
  cases v with
  | free => trivial
  | test p => rintro x _ rfl; rfl
  | ofType tag => trivial

/-! ## valid catalogs -/

namespace Catalog

variable {α : Type} [Typed α]

/-- every item is accepted by the validator in force, and no key is there twice -/
structure Valid (s : Catalog α) : Prop where
  accepted : ∀ e ∈ s.entries, s.validator.accepts e.2 = true
  distinct : s.keys.Nodup

theorem valid_empty : (empty : Catalog α).Valid := ⟨by simp [empty], List.nodup_nil⟩

theorem valid_ofItems (xs : List α) : (ofItems xs).Valid := ⟨fun _ _ => rfl, Entries.nodup_collect _⟩

theorem valid_ofEntries {es : List (Key × α)} {v : Validator α} {s : Catalog α}
    (h : (ofEntries es v).result = .ok s) : s.Valid := by
  obtain ⟨hv, rfl⟩ := ofEntries_ok.1 h
  exact ⟨fun e he => hv e (Entries.mem_collect he), Entries.nodup_collect es⟩

omit [Typed α] in
theorem mem_items_of_mem_filter {s : Catalog α} {p : α → Bool} {e : Key × α} (h : e ∈ (s.filter p).entries) :
    e.2 ∈ s.items.filter p := by
  have hmem := List.mem_map_of_mem (f := Prod.snd) (Entries.mem_collect h)
  change e.2 ∈ Entries.items (numbered (s.items.filter p)) at hmem
  rwa [items_numbered] at hmem

theorem Valid.filter {s : Catalog α} (h : s.Valid) (p : α → Bool) : (s.filter p).Valid := by
  refine ⟨fun e he => ?_, Entries.nodup_collect _⟩
  have hitem : e.2 ∈ s.entries.items := (List.mem_filter.1 (mem_items_of_mem_filter he)).1
  obtain ⟨f, hf, hfe⟩ := List.mem_map.1 hitem
  exact hfe ▸ h.accepted f hf

theorem Valid.copied {C : Copying α} {s t : Catalog α} (h : s.Valid) (hv : s.validator.Faithful C)
    (hc : C.Copied s t) : t.Valid := by
  obtain ⟨hvt, hes⟩ := hc
  have hkeys : t.keys = s.keys := Copying.keys_eq_of_copies hes
  refine ⟨fun f hf => ?_, hkeys ▸ h.distinct⟩
  obtain ⟨e, he, -, hcopy⟩ := Copying.exists_original hes hf
  rw [hvt]
  exact (Validator.accepts_copy hv hcopy).trans (h.accepted e he)

theorem Valid.put {s : Catalog α} (h : s.Valid) (k : Key) {x : α} (hx : s.validator.accepts x = true) :
    (⟨s.entries.put k x, s.validator⟩ : Catalog α).Valid := by
  refine ⟨fun e he => ?_, Entries.nodup_put h.distinct k x⟩
  rcases Entries.mem_put he with rfl | he
  · exact hx
  · exact h.accepted e he

theorem Valid.insert {s : Catalog α} (h : s.Valid) (k : Key) (x : α) : (s.insert k x).catalog.Valid := by
  rw [insert_eq]
  split_ifs with hx
  · exact h.put k hx
  · exact h

theorem Valid.push {s : Catalog α} (h : s.Valid) (x : α) : (s.push x).catalog.Valid := by
  rw [push_eq]
  cases s.nextIndex with
  | error f => exact h
  | ok i =>
    simp only
    split_ifs with hx
    · exact h.put (.index i) hx
    · exact h

theorem Valid.remove {s : Catalog α} (h : s.Valid) (k : Key) : (s.remove k).catalog.Valid :=
  ⟨fun e he => h.accepted e ((Entries.erase_sublist k s.entries).subset he), Entries.nodup_erase h.distinct k⟩

theorem Valid.setValidator {s : Catalog α} (h : s.Valid) (v : Validator α) : (s.setValidator v).catalog.Valid := by
  rw [setValidator_eq]
  cases ho : v.offender? s.entries with
  | none => exact ⟨Validator.offender?_eq_none.1 ho, h.distinct⟩
  | some e => exact h

/-! ## catalogs that can be made -/

/-- what the operations make from nothing: constructions, copies and selections of what was made, and changes of it
whatever their outcome -/
inductive Reachable (C : Copying α) : Catalog α → Prop where
  | empty : Reachable C empty
  | ofItems (xs : List α) : Reachable C (ofItems xs)
  | withValidator {xs : List α} {v : Validator α} {s : Catalog α} (hv : v.Faithful C)
      (hs : (withValidator xs v).result = .ok s) : Reachable C s
  | ofEntries {es : List (Key × α)} {v : Validator α} {s : Catalog α} (hv : v.Faithful C)
      (hs : (ofEntries es v).result = .ok s) : Reachable C s
  | copy {s t : Catalog α} (hs : Reachable C s) (ht : C.Copied s t) : Reachable C t
  | filter {s t : Catalog α} (hs : Reachable C s) (p : α → Bool) (ht : C.Copied (s.filter p) t) : Reachable C t
  | exclude {s t : Catalog α} (hs : Reachable C s) (p : α → Bool) (ht : C.Copied (s.exclude p) t) : Reachable C t
  | insert {s : Catalog α} (hs : Reachable C s) (k : Key) (x : α) : Reachable C (s.insert k x).catalog
  | push {s : Catalog α} (hs : Reachable C s) (x : α) : Reachable C (s.push x).catalog
  | remove {s : Catalog α} (hs : Reachable C s) (k : Key) : Reachable C (s.remove k).catalog
  | setValidator {s : Catalog α} (hs : Reachable C s) {v : Validator α} (hv : v.Faithful C) :
      Reachable C (s.setValidator v).catalog

/-- the terminals of a catalog of symbols are a selection of it -/
theorem Reachable.terminals {s : Catalog Symbol} (h : Reachable (.values Symbol) s) :
    Reachable (.values Symbol) s.terminals :=
  .filter h Symbol.isTerminal (Copying.copied_values _)

/-- so are the non-terminals -/
theorem Reachable.nonTerminals {s : Catalog Symbol} (h : Reachable (.values Symbol) s) :
    Reachable (.values Symbol) s.nonTerminals :=
  .filter h Symbol.isNonTerminal (Copying.copied_values _)

theorem faithful_insert {C : Copying α} {s : Catalog α} (h : s.validator.Faithful C) (k : Key) (x : α) :
    (s.insert k x).catalog.validator.Faithful C := by
  rw [insert_eq]
  split_ifs <;> exact h

theorem faithful_push {C : Copying α} {s : Catalog α} (h : s.validator.Faithful C) (x : α) :
    (s.push x).catalog.validator.Faithful C := by
  unfold push
  cases s.nextIndex with
  | error f => exact h
  | ok i => exact faithful_insert h (.index i) x

theorem faithful_setValidator {C : Copying α} {s : Catalog α} (h : s.validator.Faithful C) {v : Validator α}
    (hv : v.Faithful C) : (s.setValidator v).catalog.validator.Faithful C := by
  rw [setValidator_eq]
  cases v.offender? s.entries with
  | none => exact hv
  | some e => exact h

/-- The validator in force stays faithful; without that a copy could hold items its own validator refuses. -/
theorem Reachable.valid_faithful {C : Copying α} {s : Catalog α} (h : Reachable C s) :
    s.Valid ∧ s.validator.Faithful C := by
  induction h with
  | empty => exact ⟨valid_empty, trivial⟩
  | ofItems xs => exact ⟨valid_ofItems xs, trivial⟩
  | withValidator hv hs => exact ⟨valid_ofEntries hs, (ofEntries_ok.1 hs).2 ▸ hv⟩
  | ofEntries hv hs => exact ⟨valid_ofEntries hs, (ofEntries_ok.1 hs).2 ▸ hv⟩
  | copy _ ht ih => exact ⟨ih.1.copied ih.2 ht, ht.1 ▸ ih.2⟩
  | filter _ p ht ih => exact ⟨(ih.1.filter p).copied ih.2 ht, ht.1 ▸ ih.2⟩
  | exclude _ p ht ih => exact ⟨(ih.1.filter _).copied ih.2 ht, ht.1 ▸ ih.2⟩
  | insert _ k x ih => exact ⟨ih.1.insert k x, faithful_insert ih.2 k x⟩
  | push _ x ih => exact ⟨ih.1.push x, faithful_push ih.2 x⟩
  | remove _ k ih => exact ⟨ih.1.remove k, ih.2⟩
  | setValidator _ hv ih => exact ⟨ih.1.setValidator _, faithful_setValidator ih.2 hv⟩

theorem Reachable.valid {C : Copying α} {s : Catalog α} (h : Reachable C s) : s.Valid := h.valid_faithful.1

end Catalog

/-! ## runs over several catalogs -/

namespace Workspace

open Catalog

variable {α : Type} [Typed α]

/-- every catalog in a slot can be made -/
def AllReachable (w : Workspace α) : Prop := ∀ e ∈ w, Reachable (.values α) e.2

theorem AllReachable.of_at? {w : Workspace α} (h : w.AllReachable) {on : String} {s : Catalog α}
    (hs : w.at? on = some s) : Reachable (.values α) s :=
  h _ (Entries.mem_of_at? hs)

theorem AllReachable.put {w : Workspace α} (h : w.AllReachable) (into : String) {s : Catalog α}
    (hs : Reachable (.values α) s) : AllReachable (w.put into s) := by
  intro e he
  rcases Entries.mem_put he with rfl | he
  · exact hs
  · exact h e he

theorem AllReachable.make {w : Workspace α} (h : w.AllReachable) (into : String) {a : Attempt (Catalog α)}
    (ha : ∀ s, a.result = .ok s → Reachable (.values α) s) : (w.make into a).1.AllReachable := by
  unfold Workspace.make
  cases hr : a.result with
  | error f => exact h
  | ok s => exact h.put into (ha s hr)

omit [Typed α] in
/-- an operation on a slot works on the catalog there -/
theorem of_slot {w w' : Workspace α} {on : String} {a : Attempt (Answer α)}
    {g : Catalog α → Workspace α × Attempt (Answer α)} (h : (w.at? on).map g = some (w', a)) :
    ∃ s, w.at? on = some s ∧ (g s).1 = w' ∧ (g s).2 = a := by
  obtain ⟨s, hs, hg⟩ := Option.map_eq_some_iff.1 h
  exact ⟨s, hs, congrArg Prod.fst hg, congrArg Prod.snd hg⟩

theorem step_reachable {w w' : Workspace α} {op : Op α} {a : Attempt (Answer α)} (h : w.AllReachable)
    (hstep : w.step op = some (w', a)) : w'.AllReachable := by
  have hmade {w₁ : Workspace α × Attempt (Answer α)} (hw : some w₁ = some (w', a)) : w₁.1 = w' :=
    congrArg Prod.fst (Option.some.inj hw)
  have hcopy {s t : Catalog α} (hs : Reachable (.values α) s) :
      (Attempt.done s).result = .ok t → Reachable (.values α) t := by
    rintro ⟨⟩; exact hs
  cases op with
  | empty into => exact hmade hstep ▸ h.make into fun s => hcopy .empty
  | ofItems into xs => exact hmade hstep ▸ h.make into fun s => hcopy (.ofItems xs)
  | withValidator into xs v => exact hmade hstep ▸ h.make into fun s => .withValidator v.faithful_values
  | ofEntries into es v => exact hmade hstep ▸ h.make into fun s => .ofEntries v.faithful_values
  | copy on into =>
    obtain ⟨s, hs, rfl, -⟩ := of_slot hstep
    exact h.make into fun t => hcopy (h.of_at? hs)
  | filter on into p =>
    obtain ⟨s, hs, rfl, -⟩ := of_slot hstep
    exact h.make into fun t => hcopy (.filter (h.of_at? hs) p (Copying.copied_values _))
  | exclude on into p =>
    obtain ⟨s, hs, rfl, -⟩ := of_slot hstep
    exact h.make into fun t => hcopy (.exclude (h.of_at? hs) p (Copying.copied_values _))
  | insert on k x =>
    obtain ⟨s, hs, rfl, -⟩ := of_slot hstep
    exact h.put on ((h.of_at? hs).insert k x)
  | push on x =>
    obtain ⟨s, hs, rfl, -⟩ := of_slot hstep
    exact h.put on ((h.of_at? hs).push x)
  | remove on k =>
    obtain ⟨s, hs, rfl, -⟩ := of_slot hstep
    exact h.put on ((h.of_at? hs).remove k)
  | setValidator on v =>
    obtain ⟨s, hs, rfl, -⟩ := of_slot hstep
    exact h.put on ((h.of_at? hs).setValidator v.faithful_values)
  | consume on =>
    obtain ⟨s, hs, rfl, -⟩ := of_slot hstep
    exact fun e he => h e ((Entries.erase_sublist on w).subset he)
  | get on k =>
    obtain ⟨s, hs, rfl, -⟩ := of_slot hstep
    exact h
  | containsKey on k =>
    obtain ⟨s, hs, rfl, -⟩ := of_slot hstep
    exact h

/-- every catalog in every slot, after any run, can be made -/
theorem run_reachable {w : Workspace α} (h : w.AllReachable) (ops : List (Op α)) : (w.run ops).1.AllReachable := by
  induction ops generalizing w with
  | nil => exact h
  | cons op ops ih =>
    unfold run
    cases hs : w.step op with
    | none => exact ih h
    | some r => exact ih (step_reachable h hs)

end Workspace

/-! ## the invariant -/

namespace Catalog

/-- **Stored items are accepted and keys are distinct.** Whatever the operations make, with any outcomes on the way,
is a valid catalog; so is every catalog in a slot after any run over a workspace. -/
theorem items_accepted_keys_distinct {α : Type} [Typed α] (C : Copying α) :
    (∀ s, Reachable C s → s.Valid) ∧
      ∀ (ops : List (Workspace.Op α)) (on : String) (s : Catalog α),
        (Workspace.run [] ops).1.at? on = some s → s.Valid := by
  refine ⟨fun s h => h.valid, fun ops on s hs => ?_⟩
  have hempty : Workspace.AllReachable ([] : Workspace α) := by simp [Workspace.AllReachable]
  have hrun := Workspace.run_reachable hempty ops
  exact (hrun.of_at? hs).valid

/-- a box of a number -/
def box (n : Int) (place : Nat) : Handle Scalar := ⟨.boxed, place, .integer .i32 n⟩

/-- accepts boxes of even numbers -/
def evens : Validator (Handle Scalar) :=
  .test fun h =>
    match h.value with
    | .integer _ n => n % 2 == 0
    | _ => false

/-- two boxes under names, of which one is selected and so copied -/
def selectedBoxes : Catalog (Handle Scalar) :=
  (filter (fun h => h.place != 0) ⟨[(.name "a", box 2 0), (.name "b", box 4 1)], evens⟩).copyHandles 2

/-- the selection after a refused insertion, a push and a change of the validator that is refused -/
def changedBoxes : Catalog (Handle Scalar) :=
  let inserted := (selectedBoxes.insert (.name "odd") (box 3 3)).catalog
  ((inserted.push (box 6 4)).catalog.setValidator (.ofType ⟨"String"⟩)).catalog

theorem changedBoxes_valid : changedBoxes.Reachable (.handles Scalar) ∧ changedBoxes.size = 2 ∧ changedBoxes.Valid := by
  have hevens : evens.Faithful (.handles Scalar) := by
    intro x y h
    change y.value = x.value at h
    simp only [h]
  have hentries : (ofEntries [(.name "a", box 2 0), (.name "b", box 4 1)] evens).result =
      .ok ⟨[(.name "a", box 2 0), (.name "b", box 4 1)], evens⟩ := rfl
  have hmade : Reachable (.handles Scalar) ⟨[(.name "a", box 2 0), (.name "b", box 4 1)], evens⟩ :=
    .ofEntries hevens hentries
  have hselected : Reachable (.handles Scalar) selectedBoxes := hmade.filter _ (Copying.copied_copyHandles _ 2)
  have hchanged : Reachable (.handles Scalar) changedBoxes := ((hselected.insert _ _).push _).setValidator trivial
  exact ⟨hchanged, rfl, (items_accepted_keys_distinct (.handles Scalar)).1 _ hchanged⟩

end Catalog

end Lexicon
