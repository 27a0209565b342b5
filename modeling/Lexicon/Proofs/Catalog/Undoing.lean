/-
Insertions taken back. What came in at a new key stands behind all other entries, so its removal leaves them as they were;
what was overwritten is stored again in its place. Storing it again succeeds because the validator accepts everything that
it lets stay, which is the invariant of every reachable catalog; under a test that tells an item from its copy it succeeds
exactly if the item is not refused by then (`insert_back_iff`).

Results:
- `perform_undone`: what one edit that adds an item leaves behind, and how it is taken back (`undo?`);
- `run_undone`: so a whole run of such edits, refused ones included, is taken back from its trace, the latest step first;
- `insertions_undone`.
-/
import Lexicon.Proofs.Catalog.Frame
import Lexicon.Proofs.Catalog.Interchange
import Lexicon.Proofs.Catalog.Pushing
import Lexicon.Proofs.Catalog.Rebuilding

namespace Lexicon

/-! ## entries taken back -/

namespace Entries

variable {κ α : Type} [DecidableEq κ] {k : κ} {es : Entries κ α}

theorem erase_put_of_not_mem (h : k ∉ keys es) (x : α) : erase k (put k x es) = es := by
  rw [put_of_not_mem h, erase_append_cons h, List.append_nil]

theorem put_put (k : κ) (x y : α) (es : Entries κ α) : put k x (put k y es) = put k x es := by
  induction es with
  | nil => simp [put]
  | cons e rest ih =>
    obtain ⟨j, z⟩ := e
    by_cases hj : j = k
    · simp [put, hj]
    · simp [put, hj, ih]

/-- The item found at a key, put back over another one. -/
theorem put_back {x : α} (h : at? k es = some x) (y : α) : put k x (put k y es) = es := by
  rw [put_put, put_of_at? h]

end Entries

namespace Catalog

variable {α : Type} [Typed α] {s : Catalog α} {k : Key} {x y : α}

/-! ## one insertion -/

theorem insert_of_accepts (hy : s.validator.accepts y = true) (k : Key) :
    s.insert k y = ⟨⟨s.entries.put k y, s.validator⟩, .done (s.entries.at? k)⟩ := by
  rw [insert_eq, if_pos hy]

omit [Typed α] in
/-- A new entry removed again. -/
theorem remove_put (h : k ∉ s.keys) (y : α) :
    (⟨s.entries.put k y, s.validator⟩ : Catalog α).remove k = ⟨s, .done (some y)⟩ := by
  rw [remove, Entries.erase_put_of_not_mem h, Entries.at?_put, if_pos rfl]

/-- An item overwritten and stored again. -/
theorem insert_put (hx : s.entries.at? k = some x) (haccepted : s.validator.accepts x = true) (y : α) :
    (⟨s.entries.put k y, s.validator⟩ : Catalog α).insert k x = ⟨s, .done (some y)⟩ := by
  have hback : (⟨s.entries.put k y, s.validator⟩ : Catalog α).insert k x =
      ⟨⟨(s.entries.put k y).put k x, s.validator⟩, .done ((s.entries.put k y).at? k)⟩ :=
    insert_of_accepts (s := ⟨s.entries.put k y, s.validator⟩) haccepted k
  rw [hback, Entries.put_back hx, Entries.at?_put, if_pos rfl]

/-- A pushed item removed at the key that the push answered. -/
theorem remove_pushed (h : (s.push y).outcome.result = .ok k) :
    (s.push y).catalog.remove k = ⟨s, .done (some y)⟩ := by
  rcases nextIndex_cases s with ⟨hfull, -⟩ | ⟨-, i, hnext, hi⟩
  · rw [push_full hfull] at h
    cases h
  · rw [push_eq, hnext] at h ⊢
    simp only at h ⊢
    split_ifs at h ⊢
    · obtain rfl : Key.index i = k := Except.ok.inj h
      exact remove_put hi.not_mem y
    · cases h

/-- Storing an overwritten item again restores the catalog exactly if the validator still accepts the item. -/
theorem insert_back_iff (hx : s.entries.at? k = some x) (hy : s.validator.accepts y = true) :
    (s.insert k y).catalog.insert k x = ⟨s, .done (some y)⟩ ↔ s.validator.accepts x = true := by
  rw [insert_of_accepts hy]
  refine ⟨fun h => ?_, fun haccepted => insert_put hx haccepted y⟩
  by_contra hrefused
  rw [insert_eq, if_neg hrefused] at h
  cases congrArg (fun c => c.outcome.result) h

/-! ## edits that add an item -/

/-- an edit that adds an item: an insertion or a push -/
def Edit.Adds : Edit α → Prop
  | .insert _ _ => True
  | .push _ => True
  | _ => False

/-- the edit that takes a step back: it removes what came new, and stores again what was overwritten -/
def undo? : Step α → Option (Edit α)
  | (.insert k _, .former none) => some (.remove k)
  | (.insert k _, .former (some x)) => some (.insert k x)
  | (.push _, .chosen k) => some (.remove k)
  | _ => none

/-- the item that a step has added -/
def added? : Step α → Option α
  | (.insert _ y, .former _) => some y
  | (.push y, .chosen _) => some y
  | _ => none

/-- An edit that adds an item is refused and changes nothing, or is taken back with the item for an answer. -/
theorem perform_undone (h : s.Valid) {e : Edit α} (he : e.Adds) :
    ((s.perform e).1 = s ∧ undo? (e, (s.perform e).2) = none ∧ added? (e, (s.perform e).2) = none) ∨
      ∃ u y, undo? (e, (s.perform e).2) = some u ∧ added? (e, (s.perform e).2) = some y ∧
        (s.perform e).1.perform u = (s, .former (some y)) := by
  cases e with
  | insert k y =>
    cases hy : s.validator.accepts y with
    | false =>
      rw [perform, insert_eq, if_neg (by simp [hy])]
      exact Or.inl ⟨rfl, rfl, rfl⟩
    | true =>
      right
      rw [perform, insert_of_accepts hy]
      cases hx : s.entries.at? k with
      | none =>
        have hk : k ∉ s.keys := Entries.at?_eq_none.1 hx
        refine ⟨.remove k, y, rfl, rfl, ?_⟩
        rw [perform, remove_put hk]
        rfl
      | some x =>
        have haccepted : s.validator.accepts x = true := h.accepted _ (Entries.mem_of_at? hx)
        refine ⟨.insert k x, y, rfl, rfl, ?_⟩
        rw [perform, insert_put hx haccepted]
        rfl
  | push y =>
    rcases push_cases s y with ⟨f, log, hs⟩ | ⟨i, hs⟩
    · rw [perform, hs]
      exact Or.inl ⟨rfl, rfl, rfl⟩
    · refine Or.inr ⟨.remove (.index i), y, ?_, ?_, ?_⟩
      · rw [perform, hs]
        rfl
      · rw [perform, hs]
        rfl
      · have hremoved : (s.push y).catalog.remove (.index i) = ⟨s, .done (some y)⟩ :=
          remove_pushed (congrArg (fun c => c.outcome.result) hs)
        simp only [perform, hremoved]
        rfl
  | remove k => exact he.elim
  | setValidator v => exact he.elim

/-! ## runs -/

theorem Run.after_cons (s : Catalog α) (e : Edit α) (es : List (Edit α)) :
    Run.after s (e :: es) = ⟨(Run.after (s.perform e).1 es).catalog,
      (Run.after (s.perform e).1 es).trace ++ [(e, (s.perform e).2)]⟩ := by
  induction es using List.reverseRecOn with
  | nil => rfl
  | append_singleton es f ih => rw [← List.cons_append, Run.after_snoc, ih, Run.after_snoc]; rfl

theorem valid_perform (h : s.Valid) (e : Edit α) : (s.perform e).1.Valid := by
  cases e with
  | insert k x => exact h.insert k x
  | push x => exact h.push x
  | remove k => exact h.remove k
  | setValidator v => exact h.setValidator v

theorem valid_after (h : s.Valid) (es : List (Edit α)) : (Run.after s es).catalog.Valid := by
  induction es using List.reverseRecOn with
  | nil => exact h
  | append_singleton es e ih =>
    rw [Run.after_snoc]
    exact valid_perform ih e

/-- the run that takes another one back, the latest step first -/
def Run.undone (r : Run α) : Run α := Run.after r.catalog (r.trace.filterMap undo?)

/-- **Runs are taken back step by step.** After a run of edits that add items, refused ones included, taking back its
steps from the latest on restores the catalog, and answers with the items added, the latest first. -/
theorem run_undone (h : s.Valid) {es : List (Edit α)} (hes : ∀ e ∈ es, e.Adds) :
    (Run.after s es).undone.catalog = s ∧
      (Run.after s es).undone.trace.reverse.map Prod.snd =
        ((Run.after s es).trace.filterMap added?).map fun y => .former (some y) := by
  induction es using List.reverseRecOn with
  | nil => exact ⟨rfl, rfl⟩
  | append_singleton es e ih =>
    obtain ⟨hcatalog, hreplies⟩ := ih fun f hf => hes f (List.mem_append_left _ hf)
    have hvalid := valid_after h es
    rw [Run.after_snoc]
    set r := Run.after s es
    rcases perform_undone hvalid (hes e (by simp)) with ⟨hsame, hundo, hadded⟩ | ⟨u, y, hundo, hadded, hback⟩
    · have hundone : (r.next e).undone = r.undone := by simp [Run.undone, Run.next, hsame, hundo]
      have hitems : (r.next e).trace.filterMap added? = r.trace.filterMap added? := by simp [Run.next, hadded]
      rw [hundone, hitems]
      exact ⟨hcatalog, hreplies⟩
    · have hundone : (r.next e).undone = ⟨r.undone.catalog, r.undone.trace ++ [(u, .former (some y))]⟩ := by
        have hedits : (r.next e).trace.filterMap undo? = u :: r.trace.filterMap undo? := by simp [Run.next, hundo]
        rw [Run.undone, hedits, Run.after_cons]
        change (⟨(Run.after ((r.catalog.perform e).1.perform u).1 _).catalog,
          (Run.after ((r.catalog.perform e).1.perform u).1 _).trace ++ [(u, ((r.catalog.perform e).1.perform u).2)]⟩ :
            Run α) = _
        rw [hback]
        rfl
      have hitems : (r.next e).trace.filterMap added? = y :: r.trace.filterMap added? := by simp [Run.next, hadded]
      rw [hundone, hitems]
      exact ⟨hcatalog, by simp [hreplies]⟩

/-! ## reachable catalogs -/

/-- **Insertions are undone exactly.** On every reachable catalog: an accepted item inserted at a new key, or pushed
where an index is left, is given back by the removal of its key, which restores entries, order and validator; an accepted
item inserted over another one gives that one back, and inserting it again never fails, gives back the former and
restores the catalog. A whole run of insertions and pushes, refused ones included, is undone the latest step first.
Under a validator that tells an item from its copy, the item overwritten is stored again exactly if it is accepted. -/
theorem insertions_undone (C : Copying α) :
    (∀ s, Reachable C s →
      (∀ k y, k ∉ s.keys → s.validator.accepts y = true →
        (s.insert k y).outcome = .done none ∧ (s.insert k y).catalog.remove k = ⟨s, .done (some y)⟩) ∧
      (∀ y, .index Int64.maxValue ∉ s.keys → s.validator.accepts y = true →
        ∃ k, (s.push y).outcome = .done k ∧ (s.push y).catalog.remove k = ⟨s, .done (some y)⟩) ∧
      (∀ k x y, s.get k = .ok x → s.validator.accepts y = true →
        (s.insert k y).outcome = .done (some x) ∧ (s.insert k y).catalog.insert k x = ⟨s, .done (some y)⟩) ∧
      ∀ es, (∀ e ∈ es, Edit.Adds e) → (Run.after s es).undone.catalog = s ∧
        (Run.after s es).undone.trace.reverse.map Prod.snd =
          ((Run.after s es).trace.filterMap added?).map fun y => .former (some y)) ∧
    ∀ s, Made C s → ∀ k x y, s.get k = .ok x → s.validator.accepts y = true →
      ((s.insert k y).catalog.insert k x = ⟨s, .done (some y)⟩ ↔ s.validator.accepts x = true) := by
  constructor
  · intro s h
    refine ⟨?_, ?_, ?_, ?_⟩
    · intro k y hk hy
      rw [insert_of_accepts hy, Entries.at?_eq_none.2 hk]
      exact ⟨rfl, remove_put hk y⟩
    · intro y hroom hy
      rcases nextIndex_cases s with ⟨hfull, -⟩ | ⟨-, i, hnext, hi⟩
      · exact absurd hfull hroom
      · have hdone : (s.push y).outcome = .done (.index i) := by rw [push_last hnext hi, if_pos hy]
        exact ⟨.index i, hdone, remove_pushed (congrArg Attempt.result hdone)⟩
    · intro k x y hx hy
      have hstored := get_eq_ok.1 hx
      -- what a reachable catalog holds, its validator accepts
      have haccepted : s.validator.accepts x = true := h.valid.accepted _ (Entries.mem_of_at? hstored)
      rw [insert_of_accepts hy, hstored]
      exact ⟨rfl, insert_put hstored haccepted y⟩
    · intro es hes
      exact run_undone h.valid hes
  · intro s _ k x y hx hy
    exact insert_back_iff (get_eq_ok.1 hx) hy

/-- numbers under a name and an index -/
def shelf : Catalog Scalar := ⟨[(.name "a", .integer .i32 1), (.index 3, .integer .i32 2)], .ofType ⟨"i32"⟩⟩

/-- a number inserted, one pushed, one overwritten, and one refused -/
def additions : List (Edit Scalar) :=
  [.insert (.name "b") (.integer .i32 3), .push (.integer .i32 4), .insert (.name "a") (.integer .i32 5),
    .insert (.name "c") (.bool true)]

theorem additions_undone :
    shelf.Reachable (.values Scalar) ∧
      (Run.after shelf additions).catalog.entries =
        [(.name "a", .integer .i32 5), (.index 3, .integer .i32 2), (.name "b", .integer .i32 3),
          (.index 4, .integer .i32 4)] ∧
      (Run.after shelf additions).undone.catalog = shelf ∧
      (Run.after shelf additions).undone.trace.reverse.map Prod.snd =
        [.former (some (.integer .i32 5)), .former (some (.integer .i32 4)), .former (some (.integer .i32 3))] ∧
      (shelf.insert (.name "b") (.integer .i32 3)).catalog.remove (.name "b") =
        ⟨shelf, .done (some (.integer .i32 3))⟩ ∧
      (∃ k, (shelf.push (.integer .i32 4)).catalog.remove k = ⟨shelf, .done (some (.integer .i32 4))⟩) ∧
      (shelf.insert (.index 3) (.integer .i32 6)).catalog.insert (.index 3) (.integer .i32 2) =
        ⟨shelf, .done (some (.integer .i32 6))⟩ ∧
      (movedBox.insert (.index 0) (box 2 0)).catalog.insert (.index 0) (box 1 1) ≠
        ⟨movedBox, .done (some (box 2 0))⟩ := by
  have hmade : (ofEntries shelf.entries shelf.validator).result = .ok shelf := rfl
  have hreachable : shelf.Reachable (.values Scalar) := .ofEntries (Validator.faithful_values _) hmade
  obtain ⟨hnew, hpushed, hover, hruns⟩ := (insertions_undone (.values Scalar)).1 shelf hreachable
  obtain ⟨k, -, hk⟩ := hpushed (.integer .i32 4) (by decide) rfl
  have hadds : ∀ e ∈ additions, e.Adds := by simp [additions, Edit.Adds]
  have hplaced : (ofEntries [(.index 0, box 1 0)] (.test fun h => h.place == 0)).result =
      .ok ⟨[(.index 0, box 1 0)], .test fun h => h.place == 0⟩ := rfl
  have hmoved : Made (.handles Scalar) movedBox := (Made.ofEntries hplaced).copy (Copying.copied_copyHandles _ 1)
  refine ⟨hreachable, rfl, (hruns additions hadds).1, (hruns additions hadds).2, ?_, ⟨k, hk⟩, ?_, ?_⟩
  · exact (hnew (.name "b") (.integer .i32 3) (by decide) rfl).2
  · exact (hover (.index 3) (.integer .i32 2) (.integer .i32 6) rfl rfl).2
  · intro hback
    have haccepted : movedBox.validator.accepts (box 1 1) = true :=
      ((insertions_undone (.handles Scalar)).2 movedBox hmoved (.index 0) (box 1 1) (box 2 0) rfl rfl).1 hback
    cases haccepted

end Catalog

end Lexicon
