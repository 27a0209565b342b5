/-
Ways of reading a catalog. A cursor hands out entries one at a time; `Cursor.Yields` collects what a way of moving it
hands out up to the first time there is nothing, which is determined (`Cursor.Yields.unique`), and is all entries in
order from the front (`yields_next`) and all of them in reverse from the back (`yields_nextBack`). Reading by key goes
another way, past the keys; with distinct keys it finds the same entries (`Entries.at?_eq_some`), and an erasure takes
exactly the entry that it finds out of its place (`Entries.erase_append_cons`).

Results: `views_agree`. What a cursor hands out from the front is what every other way of reading a catalog that can be
made shows (`Shows`).
-/
import Lexicon.Catalog.Cursor
import Lexicon.Proofs.Catalog.Made

namespace Lexicon

/-! ## entries by key -/

namespace Entries

variable {κ α : Type} [DecidableEq κ]

theorem at?_append_cons {k : κ} {x : α} {before after : Entries κ α} (h : k ∉ keys before) :
    at? k (before ++ (k, x) :: after) = some x := by
  induction before with
  | nil => simp [at?]
  | cons e rest ih =>
    simp only [keys, List.map_cons, List.mem_cons, not_or] at h
    simpa [at?, Ne.symm h.1] using ih h.2

theorem erase_append_cons {k : κ} {x : α} {before after : Entries κ α} (h : k ∉ keys before) :
    erase k (before ++ (k, x) :: after) = before ++ after := by
  induction before with
  | nil => simp [erase]
  | cons e rest ih =>
    simp only [keys, List.map_cons, List.mem_cons, not_or] at h
    simpa [erase, Ne.symm h.1] using ih h.2

omit [DecidableEq κ] in
/-- an entry stands behind entries at other keys -/
theorem exists_append_cons {k : κ} {x : α} {es : Entries κ α} (hes : (keys es).Nodup) (h : (k, x) ∈ es) :
    ∃ before after, es = before ++ (k, x) :: after ∧ k ∉ keys before := by
  obtain ⟨before, after, rfl⟩ := List.append_of_mem h
  refine ⟨before, after, rfl, fun hk => ?_⟩
  rw [keys, List.map_append, List.nodup_append] at hes
  exact hes.2.2 k hk k List.mem_cons_self rfl

theorem at?_eq_some {k : κ} {x : α} {es : Entries κ α} (hes : (keys es).Nodup) : at? k es = some x ↔ (k, x) ∈ es := by
  refine ⟨mem_of_at?, fun h => ?_⟩
  obtain ⟨before, after, rfl, hk⟩ := exists_append_cons hes h
  exact at?_append_cons hk

end Entries

/-! ## entries by a cursor -/

namespace Cursor

variable {α : Type}

/-- what a way of moving a cursor hands out, up to the first time it has nothing -/
inductive Yields (move : Cursor α → Option (Key × α) × Cursor α) : Cursor α → List (Key × α) → Prop where
  | nothing {c : Cursor α} (h : (move c).1 = none) : Yields move c []
  | entry {c : Cursor α} {e : Key × α} {es : List (Key × α)} (h : (move c).1 = some e)
      (later : Yields move (move c).2 es) : Yields move c (e :: es)

theorem Yields.unique {move : Cursor α → Option (Key × α) × Cursor α} {c : Cursor α} {es fs : List (Key × α)}
    (hes : Yields move c es) (hfs : Yields move c fs) : es = fs := by
  induction hes generalizing fs with
  | nothing h =>
    cases hfs with
    | nothing _ => rfl
    | entry h' _ => cases h.symm.trans h'
  | entry h _ ih =>
    cases hfs with
    | nothing h' => cases h.symm.trans h'
    | entry h' later =>
      obtain rfl := Option.some.inj (h.symm.trans h')
      rw [ih later]

theorem yields_next (es : Entries Key α) : Yields next ⟨es⟩ es := by
  induction es with
  | nil => exact .nothing rfl
  | cons e rest ih => exact .entry rfl ih

theorem yields_nextBack (es : Entries Key α) : Yields nextBack ⟨es⟩ es.reverse := by
  induction es using List.reverseRecOn with
  | nil => exact .nothing rfl
  | append_singleton es e ih =>
    have hmove : nextBack ⟨es ++ [e]⟩ = (some e, ⟨es⟩) := by simp [nextBack]
    rw [List.reverse_append]
    refine .entry (congrArg Prod.fst hmove) ?_
    rwa [hmove]

end Cursor

namespace Catalog

variable {α : Type}

theorem get_eq_ok {s : Catalog α} {k : Key} {x : α} : s.get k = .ok x ↔ s.entries.at? k = some x := by
  unfold get
  cases s.entries.at? k <;> simp

theorem containsKey_iff (s : Catalog α) (k : Key) : s.containsKey k = true ↔ ∃ x, s.get k = .ok x := by
  simp only [get_eq_ok, containsKey, Option.isSome_iff_exists]

/-- copies of items, made one by one, are as many and stand in the same order -/
theorem forall₂_itemCopies [Typed α] {C : Copying α} {copy : Nat → α → α} (hcopy : ∀ n x, C.copies x (copy n x))
    (s : Catalog α) : List.Forall₂ C.copies s.items (s.itemCopies copy) := by
  have hfrom (xs : List α) (n : Nat) :
      List.Forall₂ C.copies xs ((xs.zipIdx n).map fun p => copy p.2 p.1) := by
    induction xs generalizing n with
    | nil => exact .nil
    | cons x xs ih => exact .cons (hcopy n x) (ih (n + 1))
  exact hfrom s.items 0

/-! ## agreement -/

/-- every way of reading the catalog shows these entries -/
structure Shows [Typed α] (C : Copying α) (s : Catalog α) (es : List (Key × α)) : Prop where
  keys : s.keys = es.map Prod.fst
  items : s.items = es.map Prod.snd
  copies : ∀ copy, (∀ n x, C.copies x (copy n x)) → List.Forall₂ C.copies (es.map Prod.snd) (s.itemCopies copy)
  consumed : ∀ (w : Workspace α) on, w.at? on = some s → w.step (.consume on) = some (w.erase on, .done (.entries es))
  backwards : Cursor.Yields Cursor.nextBack (.of s) es.reverse
  size : s.size = es.length
  isEmpty : s.isEmpty = true ↔ es = []
  get : ∀ k x, s.get k = .ok x ↔ (k, x) ∈ es
  keyNotFound : ∀ k, (∀ x, (k, x) ∉ es) → s.get k = .error ⟨.keyNotFound k, none⟩
  containsKey : ∀ k, s.containsKey k = true ↔ ∃ x, s.get k = .ok x
  remove : ∀ k x, s.get k = .ok x → ∃ before after, es = before ++ (k, x) :: after ∧
    (s.remove k).outcome = .done (some x) ∧ Cursor.Yields Cursor.next (.of (s.remove k).catalog) (before ++ after)

theorem shows_entries [Typed α] (C : Copying α) {s : Catalog α} (h : s.keys.Nodup) : s.Shows C s.entries where
  keys := rfl
  items := rfl
  copies _ hcopy := forall₂_itemCopies hcopy s
  consumed w on hon := by simp [Workspace.step, hon]
  backwards := Cursor.yields_nextBack s.entries
  size := rfl
  isEmpty := List.isEmpty_iff
  get k x := get_eq_ok.trans (Entries.at?_eq_some h)
  keyNotFound k hk := by
    have hnone : s.entries.at? k = none := Option.eq_none_iff_forall_ne_some.2 fun x hx => hk x (Entries.mem_of_at? hx)
    rw [Catalog.get, hnone]
    rfl
  containsKey := s.containsKey_iff
  remove k x hx := by
    have hat := get_eq_ok.1 hx
    obtain ⟨before, after, hes, hk⟩ := Entries.exists_append_cons h (Entries.mem_of_at? hat)
    refine ⟨before, after, hes, congrArg Attempt.done hat, ?_⟩
    have herase : s.entries.erase k = before ++ after := by rw [hes, Entries.erase_append_cons hk]
    rw [← herase]
    exact Cursor.yields_next _

/-- a cursor at the start hands out entries and comes to an end, and every other way of reading shows the same -/
def ViewsAgree [Typed α] (C : Copying α) (s : Catalog α) : Prop :=
  (∃ es, Cursor.Yields Cursor.next (.of s) es) ∧ ∀ es, Cursor.Yields Cursor.next (.of s) es → s.Shows C es

theorem Made.viewsAgree [Typed α] {C : Copying α} {s : Catalog α} (h : Made C s) : s.ViewsAgree C := by
  have hyields : Cursor.Yields Cursor.next (.of s) s.entries := Cursor.yields_next s.entries
  refine ⟨⟨s.entries, hyields⟩, fun es hes => ?_⟩
  rw [hes.unique hyields]
  exact shows_entries C h.distinct

/-- **All ways of reading agree**, for every catalog that can be made and for every catalog in a slot after any run:
keys, items and copies of the items, the entries consumed or handed out backwards, the size, the item at a key or the
failure that names the key, and what a removal answers and leaves. -/
theorem views_agree [Typed α] (C : Copying α) :
    (∀ s, Made C s → s.ViewsAgree C) ∧
      ∀ (ops : List (Workspace.Op α)) (on : String) (s : Catalog α),
        (Workspace.run [] ops).1.at? on = some s → s.ViewsAgree (.values α) := by
  refine ⟨fun s h => h.viewsAgree, fun ops on s hs => ?_⟩
  have hempty : Workspace.AllReachable ([] : Workspace α) := by simp [Workspace.AllReachable]
  have hreachable : Reachable (.values α) s := (Workspace.run_reachable hempty ops).of_at? hs
  exact hreachable.made.viewsAgree

/-- a key overwritten, another removed and stored again, and a third one refused -/
def rearranging : List (Workspace.Op Scalar) := [
  .withValidator "s" [.integer .i32 1, .integer .i32 2] (.ofType ⟨"i32"⟩), .insert "s" (.index 1) (.integer .i32 3),
  .remove "s" (.index 0), .insert "s" (.index 0) (.integer .i32 4), .insert "s" (.name "0") (.bool true)]

/-- what is left in the slot -/
def rearranged : Catalog Scalar := ⟨[(.index 1, .integer .i32 3), (.index 0, .integer .i32 4)], .ofType ⟨"i32"⟩⟩

theorem rearranged_viewsAgree :
    (Workspace.run [] rearranging).1.at? "s" = some rearranged ∧ rearranged.ViewsAgree (.values Scalar) ∧
      Cursor.Yields Cursor.nextBack (.of rearranged) [(.index 0, .integer .i32 4), (.index 1, .integer .i32 3)] ∧
      rearranged.get (.name "0") = .error ⟨.keyNotFound (.name "0"), none⟩ := by
  have hslot : (Workspace.run [] rearranging).1.at? "s" = some rearranged := rfl
  have hagree : rearranged.ViewsAgree (.values Scalar) := (views_agree (.values Scalar)).2 rearranging "s" _ hslot
  have hshows := hagree.2 rearranged.entries (Cursor.yields_next _)
  refine ⟨hslot, hagree, hshows.backwards, hshows.keyNotFound _ fun x hx => ?_⟩
  simp [rearranged] at hx

end Catalog

end Lexicon
