/-
What an operation leaves alone. A refused operation leaves the whole catalog as it was. One that succeeds concerns a
single key: the validator stays, and so do the entries at the other keys with their order (`Framed`); a change of the
validator leaves every entry.

Results:
- `perform_refused`: one lemma for every operation and every cause of a refusal;
- `after_accepted`: so refused steps can be left out of a run; the catalog and the replies to the other steps are the
  same without them;
- `refused_unchanged_accepted_framed`: what each operation leaves alone, on any catalog that can be made.
-/
import Lexicon.Proofs.Catalog.Made

namespace Lexicon

/-! ## entries at other keys -/

namespace Entries

variable {κ α : Type} [DecidableEq κ]

/-- the entries at other keys, in order -/
def others (k : κ) (es : Entries κ α) : Entries κ α := es.filter fun e => e.1 ≠ k

theorem others_put (k : κ) (x : α) (es : Entries κ α) : others k (put k x es) = others k es := by
  induction es with
  | nil => simp [put, others]
  | cons e rest ih =>
    obtain ⟨j, y⟩ := e
    by_cases hj : j = k
    · simp [put, others, hj]
    · simpa [put, others, hj] using ih

theorem others_erase (k : κ) (es : Entries κ α) : others k (erase k es) = others k es := by
  induction es with
  | nil => rfl
  | cons e rest ih =>
    obtain ⟨j, y⟩ := e
    by_cases hj : j = k
    · simp [erase, others, hj]
    · simpa [erase, others, hj] using ih

theorem erase_of_not_mem {k : κ} {es : Entries κ α} (h : k ∉ keys es) : erase k es = es := by
  induction es with
  | nil => rfl
  | cons e rest ih =>
    simp only [keys, List.map_cons, List.mem_cons, not_or] at h
    simp [erase, Ne.symm h.1, ih h.2]

end Entries

namespace Catalog

open Validator

variable {α : Type}

/-! ## one operation -/

/-- t differs from s at most in what it holds at k: this item, or none -/
structure Framed (k : Key) (held : Option α) (s t : Catalog α) : Prop where
  validator : t.validator = s.validator
  others : t.entries.others k = s.entries.others k
  held : t.entries.at? k = held

theorem framed_put (s : Catalog α) (k : Key) (x : α) : Framed k (some x) s ⟨s.entries.put k x, s.validator⟩ where
  validator := rfl
  others := Entries.others_put k x s.entries
  held := by simp [Entries.at?_put]

theorem framed_remove {s : Catalog α} (h : s.keys.Nodup) (k : Key) : Framed k none s (s.remove k).catalog where
  validator := rfl
  others := Entries.others_erase k s.entries
  held := by simp [remove, Entries.at?_erase k k h]

theorem remove_absent {s : Catalog α} {k : Key} (h : k ∉ s.keys) : s.remove k = ⟨s, .done none⟩ := by
  have herase : s.entries.erase k = s.entries := Entries.erase_of_not_mem h
  have hnone : s.entries.at? k = none := Entries.at?_eq_none.2 h
  rw [remove, herase, hnone]

variable [Typed α]

/-- An insertion is refused, or puts the item at its key. -/
theorem insert_cases (s : Catalog α) (k : Key) (x : α) :
    (∃ f log, s.insert k x = ⟨s, ⟨.error f, log⟩⟩) ∨
      s.insert k x = ⟨⟨s.entries.put k x, s.validator⟩, .done (s.entries.at? k)⟩ := by
  rw [insert_eq]
  split_ifs
  · exact Or.inr rfl
  · exact Or.inl ⟨_, _, rfl⟩

/-- A push is refused, for want of an index or by the validator, or puts the item at the index it answers. -/
theorem push_cases (s : Catalog α) (x : α) :
    (∃ f log, s.push x = ⟨s, ⟨.error f, log⟩⟩) ∨
      ∃ i, s.push x = ⟨⟨s.entries.put (.index i) x, s.validator⟩, .done (.index i)⟩ := by
  rw [push_eq]
  cases s.nextIndex with
  | error f => exact Or.inl ⟨f, [], rfl⟩
  | ok i =>
    simp only
    split_ifs
    · exact Or.inr ⟨i, rfl⟩
    · exact Or.inl ⟨_, _, rfl⟩

/-- A change of the validator is refused, at whichever entry, or exchanges the validator. -/
theorem setValidator_cases (s : Catalog α) (v : Validator α) :
    (∃ f log, s.setValidator v = ⟨s, ⟨.error f, log⟩⟩) ∨ s.setValidator v = ⟨⟨s.entries, v⟩, .done ()⟩ := by
  rw [setValidator_eq]
  cases v.offender? s.entries with
  | none => exact Or.inr rfl
  | some e => exact Or.inl ⟨_, _, rfl⟩

theorem framed_insert {s : Catalog α} {k : Key} {x : α} {former : Option α}
    (h : (s.insert k x).outcome.result = .ok former) : Framed k (some x) s (s.insert k x).catalog := by
  rcases insert_cases s k x with ⟨f, log, hs⟩ | hs <;> rw [hs] at h ⊢
  · cases h
  · exact framed_put s k x

theorem framed_push {s : Catalog α} {k : Key} {x : α} (h : (s.push x).outcome.result = .ok k) :
    Framed k (some x) s (s.push x).catalog := by
  rcases push_cases s x with ⟨f, log, hs⟩ | ⟨i, hs⟩ <;> rw [hs] at h ⊢
  · cases h
  · obtain rfl : Key.index i = k := Except.ok.inj h
    exact framed_put s (.index i) x

theorem insert_refused {s : Catalog α} {k : Key} {x : α} {f : Failure}
    (h : (s.insert k x).outcome.result = .error f) : (s.insert k x).catalog = s := by
  rcases insert_cases s k x with ⟨g, log, hs⟩ | hs <;> rw [hs] at h ⊢
  cases h

theorem push_refused {s : Catalog α} {x : α} {f : Failure} (h : (s.push x).outcome.result = .error f) :
    (s.push x).catalog = s := by
  rcases push_cases s x with ⟨g, log, hs⟩ | ⟨i, hs⟩ <;> rw [hs] at h ⊢
  cases h

theorem setValidator_refused {s : Catalog α} {v : Validator α} {f : Failure}
    (h : (s.setValidator v).outcome.result = .error f) : (s.setValidator v).catalog = s := by
  rcases setValidator_cases s v with ⟨g, log, hs⟩ | hs <;> rw [hs] at h ⊢
  cases h

theorem setValidator_accepted {s : Catalog α} {v : Validator α}
    (h : (s.setValidator v).outcome.result = .ok ()) : (s.setValidator v).catalog = ⟨s.entries, v⟩ := by
  rcases setValidator_cases s v with ⟨f, log, hs⟩ | hs <;> rw [hs] at h ⊢
  cases h

/-! ## refusals in a run -/

/-- whether an edit was refused -/
def Reply.isRefused : Reply α → Bool
  | .refused _ => true
  | _ => false

omit [Typed α] in
theorem Reply.isRefused_of {β : Type} {answer : β → Reply α} (hanswer : ∀ b, (answer b).isRefused = false)
    {a : Attempt β} (h : (Reply.of answer a).isRefused = true) : ∃ f, a.result = .error f := by
  unfold Reply.of at h
  cases hr : a.result with
  | error f => exact ⟨f, rfl⟩
  | ok b =>
    rw [hr] at h
    exact absurd h (by simp [hanswer b])

/-- **A refused step changes nothing**, whichever operation it is and why ever it is refused. -/
theorem perform_refused {s : Catalog α} {e : Edit α} (h : (s.perform e).2.isRefused = true) :
    (s.perform e).1 = s := by
  cases e with
  | insert k x =>
    obtain ⟨f, hf⟩ := Reply.isRefused_of (fun _ => rfl) h
    exact insert_refused hf
  | push x =>
    obtain ⟨f, hf⟩ := Reply.isRefused_of (fun _ => rfl) h
    exact push_refused hf
  | remove k => exact absurd h Bool.false_ne_true
  | setValidator v =>
    obtain ⟨f, hf⟩ := Reply.isRefused_of (fun _ => rfl) h
    exact setValidator_refused hf

/-- edits performed in order on a catalog -/
def Run.after (s : Catalog α) (edits : List (Edit α)) : Run α := edits.foldl Run.next ⟨s, []⟩

/-- the steps of a trace that were not refused -/
def accepted (trace : List (Step α)) : List (Step α) := trace.filter fun step => !step.2.isRefused

/-- the edits of a trace, the first one first -/
def edits (trace : List (Step α)) : List (Edit α) := (trace.map Prod.fst).reverse

theorem Run.after_snoc (s : Catalog α) (es : List (Edit α)) (e : Edit α) :
    Run.after s (es ++ [e]) = (Run.after s es).next e := by
  simp [Run.after, List.foldl_append]

/-- **Refused steps are invisible.** A run of the edits that were not refused ends in the same catalog, and each of
them has the same reply. -/
theorem Run.after_accepted (s : Catalog α) (es : List (Edit α)) :
    Run.after s (edits (accepted (Run.after s es).trace)) =
      ⟨(Run.after s es).catalog, accepted (Run.after s es).trace⟩ := by
  induction es using List.reverseRecOn with
  | nil => rfl
  | append_singleton es e ih =>
    rw [Run.after_snoc]
    set r := Run.after s es
    cases hr : (r.catalog.perform e).2.isRefused with
    | true =>
      have htrace : accepted (r.next e).trace = accepted r.trace := by simp [accepted, next, hr]
      have hcatalog : (r.next e).catalog = r.catalog := perform_refused hr
      rw [htrace, hcatalog, ih]
    | false =>
      have htrace : accepted (r.next e).trace = (e, (r.catalog.perform e).2) :: accepted r.trace := by
        simp [accepted, next, hr]
      have hedits : edits (accepted (r.next e).trace) = edits (accepted r.trace) ++ [e] := by
        rw [htrace]
        simp [edits]
      rw [hedits, Run.after_snoc, ih, htrace]
      rfl

/-! ## catalogs that can be made -/

/-- **Failing operations are atomic, succeeding ones have their frame.** On a catalog made under any validators: an
insertion, a push or a change of the validator that fails leaves entries and validator as they were; a change of the
validator that succeeds leaves every entry; an insertion, a push or a removal that succeeds leaves the validator and the
entries at all other keys, in their order; a removal at a key that is absent leaves everything. So any run ends in the
same catalog, with the same replies, as the run of its steps that were not refused. -/
theorem refused_unchanged_accepted_framed {C : Copying α} {s : Catalog α} (h : Made C s) :
    (∀ k x f, (s.insert k x).outcome.result = .error f → (s.insert k x).catalog = s) ∧
      (∀ x f, (s.push x).outcome.result = .error f → (s.push x).catalog = s) ∧
      (∀ v f, (s.setValidator v).outcome.result = .error f → (s.setValidator v).catalog = s) ∧
      (∀ v, (s.setValidator v).outcome.result = .ok () → (s.setValidator v).catalog = ⟨s.entries, v⟩) ∧
      (∀ k x former, (s.insert k x).outcome.result = .ok former → Framed k (some x) s (s.insert k x).catalog) ∧
      (∀ k x, (s.push x).outcome.result = .ok k → Framed k (some x) s (s.push x).catalog) ∧
      (∀ k, Framed k none s (s.remove k).catalog) ∧
      (∀ k, k ∉ s.keys → s.remove k = ⟨s, .done none⟩) ∧
      ∀ es, Run.after s (edits (accepted (Run.after s es).trace)) =
        ⟨(Run.after s es).catalog, accepted (Run.after s es).trace⟩ := by
  refine ⟨fun _ _ _ => insert_refused, fun _ _ => push_refused, fun _ _ => setValidator_refused,
    fun _ => setValidator_accepted, fun _ _ _ => framed_insert, fun _ _ => framed_push, fun k => ?_,
    fun _ => remove_absent, Run.after_accepted s⟩
  exact framed_remove h.distinct k

/-- numbers, one of them at the greatest index -/
def brimful : Catalog Scalar :=
  ⟨[(.name "a", .integer .i32 1), (.index Int64.maxValue, .integer .i32 2)], .ofType ⟨"i32"⟩⟩

/-- accepts one as the only number -/
def ones : Validator Scalar := .test fun x => x == .integer .i32 1

theorem brimful_unchanged :
    brimful.Made (.values Scalar) ∧ (brimful.push (.integer .i32 3)).catalog = brimful ∧
      (brimful.setValidator ones).catalog = brimful ∧
      Framed (.name "a") (some (.integer .i32 4)) brimful (brimful.insert (.name "a") (.integer .i32 4)).catalog ∧
      brimful.remove (.name "b") = ⟨brimful, .done none⟩ := by
  have hmade : (ofEntries brimful.entries brimful.validator).result = .ok brimful := rfl
  have hbrimful : brimful.Made (.values Scalar) := .ofEntries hmade
  obtain ⟨-, hpush, hset, -, hinsert, -, -, hremove, -⟩ := refused_unchanged_accepted_framed hbrimful
  refine ⟨hbrimful, ?_, ?_, ?_, ?_⟩
  · -- no index follows the greatest one
    exact hpush _ (.of (.indexOverflow Int64.maxValue)) (by decide +kernel)
  · -- the second item is refused, after the first has passed
    exact hset _ ⟨.invalidItem "i32", some (.index Int64.maxValue)⟩ (by decide +kernel)
  · exact hinsert _ _ (some (.integer .i32 1)) (by decide +kernel)
  · exact hremove _ (by decide +kernel)

end Catalog

end Lexicon
