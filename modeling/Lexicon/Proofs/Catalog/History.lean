/-
A catalog as the outcome of its history. A run performs edits on a catalog that is empty at first and keeps a trace:
each edit with its reply, the latest first. The trace alone, without any catalog, says
- what each key holds (`held?`): what the latest step with an effect on the key left there;
- when it arrived (`arrival?`): the number of steps before the latest one that took it from absent to present. A step
  has an effect on a key when it is a successful insertion or push there, or a removal (`left?`); refused steps and
  changes of the validator have none.

Results:
- `perform_cases`: a step puts an item at a key, erases a key, or changes no entry, and the trace tells which;
- `run_tracks`: the invariant `Tracks`, which links the state to the trace, holds after every run;
- `state_of_trace`: so presence, items, order and replies are those the trace calls for.
-/
import Lexicon.Proofs.Catalog.Changes
import Lexicon.Scalar

namespace Lexicon.Catalog

variable {α : Type}

/-! ## runs -/

/-- a change of a catalog -/
inductive Edit (α : Type) where
  | insert (k : Key) (x : α)
  | push (x : α)
  | remove (k : Key)
  | setValidator (v : Validator α)

/-- what a change answers: it is refused, or tells the former item, the key it chose, or nothing -/
inductive Reply (α : Type) where
  | refused (f : Failure)
  | former (x : Option α)
  | chosen (k : Key)
  | done

/-- the reply to an attempt -/
def Reply.of {β : Type} (answer : β → Reply α) (a : Attempt β) : Reply α :=
  match a.result with
  | .error f => .refused f
  | .ok b => answer b

/-- an edit with its reply -/
abbrev Step (α : Type) := Edit α × Reply α

/-- the catalog after an edit, and the reply -/
def perform [Typed α] (s : Catalog α) : Edit α → Catalog α × Reply α
  | .insert k x => ((s.insert k x).catalog, .of .former (s.insert k x).outcome)
  | .push x => ((s.push x).catalog, .of .chosen (s.push x).outcome)
  | .remove k => ((s.remove k).catalog, .of .former (s.remove k).outcome)
  | .setValidator v => ((s.setValidator v).catalog, .of (fun _ => .done) (s.setValidator v).outcome)

/-- a catalog and the steps that led to it, the latest first -/
structure Run (α : Type) where
  catalog : Catalog α
  trace : List (Step α)

namespace Run

/-- no entries, and no steps yet -/
def start (v : Validator α) : Run α := ⟨⟨[], v⟩, []⟩

/-- one edit more -/
def next [Typed α] (r : Run α) (e : Edit α) : Run α :=
  ⟨(r.catalog.perform e).1, (e, (r.catalog.perform e).2) :: r.trace⟩

/-- edits performed in order -/
def ofEdits [Typed α] (v : Validator α) (edits : List (Edit α)) : Run α := edits.foldl next (start v)

end Run

/-! ## what a trace calls for -/

/-- what a step left at a key, if it had an effect there: an item, or none after a removal -/
def left? (k : Key) : Step α → Option (Option α)
  | (.insert j x, .former _) => if j = k then some (some x) else none
  | (.push x, .chosen j) => if j = k then some (some x) else none
  | (.remove j, .former _) => if j = k then some none else none
  | _ => none

/-- the latest effect on a key -/
def latest? (k : Key) (trace : List (Step α)) : Option (Option α) := trace.findSome? (left? k)

/-- the item that a key holds -/
def held? (k : Key) (trace : List (Step α)) : Option α := (latest? k trace).join

/-- how many steps came before the latest one that took a key from absent to present -/
def arrival? (k : Key) : List (Step α) → Option Nat
  | [] => none
  | step :: earlier =>
    match left? k step, held? k earlier with
    | some (some _), none => some earlier.length
    | _, _ => arrival? k earlier

theorem latest?_cons (k : Key) (step : Step α) (earlier : List (Step α)) :
    latest? k (step :: earlier) = (left? k step).or (latest? k earlier) := by
  simp only [latest?, List.findSome?_cons]
  cases left? k step <;> rfl

theorem held?_of_none {k : Key} {step : Step α} (h : left? k step = none) (earlier : List (Step α)) :
    held? k (step :: earlier) = held? k earlier := by
  simp [held?, latest?_cons, h]

theorem held?_of_some {k : Key} {step : Step α} {x : Option α} (h : left? k step = some x) (earlier : List (Step α)) :
    held? k (step :: earlier) = x := by
  simp [held?, latest?_cons, h]

theorem held?_eq_some {k : Key} {trace : List (Step α)} {x : α} :
    held? k trace = some x ↔ latest? k trace = some (some x) := by
  simp [held?, Option.join_eq_some_iff]

/-- A step that leaves no item at a key, or finds one there, is no arrival. -/
theorem arrival?_cons_of {k : Key} {step : Step α} {earlier : List (Step α)}
    (h : (∀ x, left? k step ≠ some (some x)) ∨ ∃ x, held? k earlier = some x) :
    arrival? k (step :: earlier) = arrival? k earlier := by
  rw [arrival?]
  split
  · rename_i x hx hnone
    rcases h with h | ⟨y, hy⟩
    · exact absurd hx (h x)
    · rw [hnone] at hy
      cases hy
  · rfl

theorem arrival?_cons_self {k : Key} {step : Step α} {earlier : List (Step α)} {x : α}
    (h : left? k step = some (some x)) (hnone : held? k earlier = none) :
    arrival? k (step :: earlier) = some earlier.length := by
  simp [arrival?, h, hnone]

/-! ## one step -/

/-- Everything a step can do to the entries, and what the trace says of it. -/
theorem perform_cases [Typed α] (s : Catalog α) (e : Edit α) :
    (∃ k x, (s.perform e).1.entries = s.entries.put k x ∧
        ∀ j, left? j (e, (s.perform e).2) = if k = j then some (some x) else none) ∨
      (∃ k, (s.perform e).1.entries = s.entries.erase k ∧
        ∀ j, left? j (e, (s.perform e).2) = if k = j then some none else none) ∨
      ((s.perform e).1.entries = s.entries ∧ ∀ j, left? j (e, (s.perform e).2) = none) := by
  cases e with
  | insert k x =>
    simp only [perform, insert_eq]
    split_ifs
    · exact Or.inl ⟨k, x, rfl, fun j => rfl⟩
    · exact Or.inr (Or.inr ⟨rfl, fun j => rfl⟩)
  | push x =>
    simp only [perform, push_eq]
    cases s.nextIndex with
    | error f => exact Or.inr (Or.inr ⟨rfl, fun j => rfl⟩)
    | ok i =>
      simp only
      split_ifs
      · exact Or.inl ⟨.index i, x, rfl, fun j => rfl⟩
      · exact Or.inr (Or.inr ⟨rfl, fun j => rfl⟩)
  | remove k => exact Or.inr (Or.inl ⟨k, rfl, fun j => rfl⟩)
  | setValidator v =>
    refine Or.inr (Or.inr ⟨?_, fun j => ?_⟩)
    · simp only [perform, setValidator_eq]
      cases v.offender? s.entries <;> rfl
    · simp only [perform]
      rfl

/-- the catalog of a run holds what its trace calls for, in the order of arrival -/
structure Tracks (r : Run α) : Prop where
  distinct : r.catalog.keys.Nodup
  lookup : ∀ k, r.catalog.entries.at? k = held? k r.trace
  arrived : ∀ k ∈ r.catalog.keys, ∃ n < r.trace.length, arrival? k r.trace = some n
  order : r.catalog.keys.Pairwise fun j k =>
    ∀ m n, arrival? j r.trace = some m → arrival? k r.trace = some n → m < n

theorem tracks_start (v : Validator α) : Tracks (Run.start v) := by
  refine ⟨List.nodup_nil, fun k => rfl, ?_, List.Pairwise.nil⟩
  simp [Run.start, keys, Entries.keys]

section

variable {r : Run α} {s : Catalog α} {step : Step α}

/-- A step after which the keys are some of those before, in order, and which is an arrival of none of them, keeps the
order and the arrivals. -/
theorem Tracks.of_sublist (h : Tracks r) (hkeys : s.keys.Sublist r.catalog.keys)
    (hlookup : ∀ k, s.entries.at? k = held? k (step :: r.trace))
    (harrival : ∀ k ∈ s.keys, arrival? k (step :: r.trace) = arrival? k r.trace) : Tracks ⟨s, step :: r.trace⟩ where
  distinct := h.distinct.sublist hkeys
  lookup := hlookup
  arrived k hk := by
    obtain ⟨n, hn, he⟩ := h.arrived k (hkeys.subset hk)
    exact ⟨n, Nat.lt_succ_of_lt hn, (harrival k hk).trans he⟩
  order := by
    refine (h.order.sublist hkeys).imp_of_mem fun hj hk hlt m n hm hn => ?_
    exact hlt m n (harrival _ hj ▸ hm) (harrival _ hk ▸ hn)

theorem Tracks.put_present (h : Tracks r) {k : Key} {x : α} (hs : s.entries = r.catalog.entries.put k x)
    (hstep : ∀ j, left? j step = if k = j then some (some x) else none) (hk : k ∈ r.catalog.keys) :
    Tracks ⟨s, step :: r.trace⟩ := by
  have hkeys : s.keys = r.catalog.keys := by
    unfold keys at hk ⊢
    rw [hs, Entries.keys_put, if_pos hk]
  refine h.of_sublist (hkeys ▸ List.Sublist.refl _) (fun j => ?_) fun j _ => arrival?_cons_of ?_
  · rw [hs, Entries.at?_put]
    split_ifs with hj
    · exact (held?_of_some ((hstep j).trans (if_pos hj)) _).symm
    · rw [held?_of_none ((hstep j).trans (if_neg hj)), h.lookup]
  · by_cases hj : k = j
    · obtain ⟨y, hy⟩ := Entries.mem_keys.1 hk
      exact Or.inr ⟨y, by rw [← hj, ← h.lookup, hy]⟩
    · exact Or.inl fun y => by simp [hstep, hj]

theorem Tracks.put_absent (h : Tracks r) {k : Key} {x : α} (hs : s.entries = r.catalog.entries.put k x)
    (hstep : ∀ j, left? j step = if k = j then some (some x) else none) (hk : k ∉ r.catalog.keys) :
    Tracks ⟨s, step :: r.trace⟩ := by
  have hkeys : s.keys = r.catalog.keys ++ [k] := by
    unfold keys at hk ⊢
    rw [hs, Entries.keys_put, if_neg hk]
  have hself : arrival? k (step :: r.trace) = some r.trace.length := by
    refine arrival?_cons_self ((hstep k).trans (if_pos rfl)) ?_
    rw [← h.lookup]
    exact Entries.at?_eq_none.2 hk
  have hother : ∀ j ∈ r.catalog.keys, arrival? j (step :: r.trace) = arrival? j r.trace := by
    intro j hj
    have hne : k ≠ j := fun e => hk (e ▸ hj)
    exact arrival?_cons_of (Or.inl fun y => by simp [hstep, hne])
  refine ⟨?_, fun j => ?_, fun j hj => ?_, ?_⟩
  · change s.entries.keys.Nodup
    rw [hs]
    exact Entries.nodup_put h.distinct k x
  · rw [hs, Entries.at?_put]
    split_ifs with hj
    · exact (held?_of_some ((hstep j).trans (if_pos hj)) _).symm
    · rw [held?_of_none ((hstep j).trans (if_neg hj)), h.lookup]
  · rw [hkeys, List.mem_append, List.mem_singleton] at hj
    rcases hj with hj | rfl
    · obtain ⟨n, hn, he⟩ := h.arrived j hj
      exact ⟨n, Nat.lt_succ_of_lt hn, (hother j hj).trans he⟩
    · exact ⟨_, Nat.lt_succ_self _, hself⟩
  · rw [hkeys]
    refine List.pairwise_append.2 ⟨?_, List.pairwise_singleton _ _, fun i hi j hj m n hm hn => ?_⟩
    · refine h.order.imp_of_mem fun hi hj hlt m n hm hn => ?_
      exact hlt m n (hother _ hi ▸ hm) (hother _ hj ▸ hn)
    · rw [List.mem_singleton.1 hj, hself] at hn
      obtain ⟨l, hl, he⟩ := h.arrived i hi
      rw [hother i hi, he] at hm
      cases hm
      cases hn
      exact hl

theorem Tracks.erase (h : Tracks r) {k : Key} (hs : s.entries = r.catalog.entries.erase k)
    (hstep : ∀ j, left? j step = if k = j then some none else none) : Tracks ⟨s, step :: r.trace⟩ := by
  have hkeys : s.keys = r.catalog.keys.erase k := by
    unfold keys
    rw [hs, Entries.keys_erase]
  refine h.of_sublist (hkeys ▸ List.erase_sublist) (fun j => ?_) fun j _ => arrival?_cons_of (Or.inl fun y => ?_)
  · rw [hs, Entries.at?_erase k j h.distinct]
    split_ifs with hj
    · exact (held?_of_some ((hstep j).trans (if_pos hj)) _).symm
    · rw [held?_of_none ((hstep j).trans (if_neg hj)), h.lookup]
  · rw [hstep]
    split_ifs <;> simp

theorem Tracks.same (h : Tracks r) (hs : s.entries = r.catalog.entries) (hstep : ∀ j, left? j step = none) :
    Tracks ⟨s, step :: r.trace⟩ := by
  have hkeys : s.keys = r.catalog.keys := congrArg Entries.keys hs
  refine h.of_sublist (hkeys ▸ List.Sublist.refl _) (fun j => ?_) fun j _ => ?_
  · rw [hs, held?_of_none (hstep j), h.lookup]
  · exact arrival?_cons_of (Or.inl fun y => by simp [hstep])

end

theorem Tracks.next [Typed α] {r : Run α} (h : Tracks r) (e : Edit α) : Tracks (r.next e) := by
  rcases perform_cases r.catalog e with ⟨k, x, hs, hstep⟩ | ⟨k, hs, hstep⟩ | ⟨hs, hstep⟩
  · by_cases hk : k ∈ r.catalog.keys
    · exact h.put_present hs hstep hk
    · exact h.put_absent hs hstep hk
  · exact h.erase hs hstep
  · exact h.same hs hstep

/-! ## whole runs -/

theorem Run.ofEdits_snoc [Typed α] (v : Validator α) (edits : List (Edit α)) (e : Edit α) :
    Run.ofEdits v (edits ++ [e]) = (Run.ofEdits v edits).next e := by
  simp [Run.ofEdits, List.foldl_append]

theorem run_tracks [Typed α] (v : Validator α) (edits : List (Edit α)) : Tracks (Run.ofEdits v edits) := by
  induction edits using List.reverseRecOn with
  | nil => exact tracks_start v
  | append_singleton edits e ih =>
    rw [Run.ofEdits_snoc]
    exact ih.next e

theorem trace_edits [Typed α] (v : Validator α) (edits : List (Edit α)) :
    (Run.ofEdits v edits).trace.map Prod.fst = edits.reverse := by
  induction edits using List.reverseRecOn with
  | nil => rfl
  | append_singleton edits e ih => simp [Run.ofEdits_snoc, Run.next, ih]

/-- replies tell what the key held: a successful insertion and a removal answer with the item there before -/
def Truthful (step : Step α) (earlier : List (Step α)) : Prop :=
  (∀ k x y, step = (.insert k x, .former y) → y = held? k earlier) ∧
    ∀ k, step.1 = .remove k → step.2 = .former (held? k earlier)

theorem Tracks.truthful [Typed α] {r : Run α} (h : Tracks r) (e : Edit α) :
    Truthful (e, (r.catalog.perform e).2) r.trace := by
  refine ⟨fun k x y hstep => ?_, fun k he => ?_⟩
  · obtain ⟨rfl, hreply⟩ := Prod.mk.inj hstep
    simp only [perform, insert_eq] at hreply
    split_ifs at hreply
    · rw [← h.lookup]
      exact (Reply.former.inj hreply).symm
    · cases hreply
  · obtain rfl : e = .remove k := he
    rw [← h.lookup]
    rfl

theorem run_truthful [Typed α] (v : Validator α) (edits : List (Edit α)) {step : Step α} {earlier : List (Step α)}
    (h : step :: earlier <:+ (Run.ofEdits v edits).trace) : Truthful step earlier := by
  induction edits using List.reverseRecOn with
  | nil => simp [Run.ofEdits, Run.start] at h
  | append_singleton edits e ih =>
    rw [Run.ofEdits_snoc] at h
    rcases List.suffix_cons_iff.1 h with h | h
    · obtain ⟨rfl, rfl⟩ := List.cons.inj h
      exact (run_tracks v edits).truthful e
    · exact ih h

/-- **Order of arrival.** The keys stand in the order in which they last arrived. -/
theorem Tracks.idxOf_lt_iff {r : Run α} (h : Tracks r) {j k : Key} (hj : j ∈ r.catalog.keys)
    (hk : k ∈ r.catalog.keys) {m n : Nat} (hm : arrival? j r.trace = some m) (hn : arrival? k r.trace = some n) :
    r.catalog.keys.idxOf j < r.catalog.keys.idxOf k ↔ m < n := by
  have hlt := List.pairwise_iff_getElem.1 h.order
  have hj' := List.idxOf_lt_length_of_mem hj
  have hk' := List.idxOf_lt_length_of_mem hk
  constructor
  · intro hjk
    have := hlt _ _ hj' hk' hjk m n
    rw [List.getElem_idxOf, List.getElem_idxOf] at this
    exact this hm hn
  · intro hmn
    by_contra hjk
    rcases Nat.lt_or_eq_of_le (Nat.le_of_not_lt hjk) with hkj | hkj
    · have := hlt _ _ hk' hj' hkj n m
      rw [List.getElem_idxOf, List.getElem_idxOf] at this
      exact Nat.lt_asymm hmn (this hn hm)
    · obtain rfl : k = j := (List.idxOf_inj hk).1 hkj
      rw [hm] at hn
      cases hn
      exact Nat.lt_irrefl _ hmn

/-- **A catalog is what its trace calls for.** After any edits of an empty catalog, with the trace of their replies:
a key is present exactly if the latest effect on it left an item, which it holds; of two keys that are present, the one
that arrived first comes first; and every insertion that succeeded and every removal answered with the item that the
key held just before. -/
theorem state_of_trace [Typed α] (v : Validator α) (edits : List (Edit α)) :
    let r := Run.ofEdits v edits
    r.trace.map Prod.fst = edits.reverse ∧
      (∀ k, k ∈ r.catalog.keys ↔ ∃ x, latest? k r.trace = some (some x)) ∧
      (∀ k x, r.catalog.entries.at? k = some x ↔ latest? k r.trace = some (some x)) ∧
      (∀ j ∈ r.catalog.keys, ∀ k ∈ r.catalog.keys, ∃ m n, arrival? j r.trace = some m ∧ arrival? k r.trace = some n ∧
        (r.catalog.keys.idxOf j < r.catalog.keys.idxOf k ↔ m < n)) ∧
      ∀ step earlier, step :: earlier <:+ r.trace → Truthful step earlier := by
  intro r
  have h : Tracks r := run_tracks v edits
  have hitem : ∀ k x, r.catalog.entries.at? k = some x ↔ latest? k r.trace = some (some x) := by
    intro k x
    rw [h.lookup, held?_eq_some]
  refine ⟨trace_edits v edits, fun k => ?_, hitem, fun j hj k hk => ?_, fun step earlier => run_truthful v edits⟩
  · exact Entries.mem_keys.trans (exists_congr (hitem k))
  · obtain ⟨m, -, hm⟩ := h.arrived j hj
    obtain ⟨n, -, hn⟩ := h.arrived k hk
    exact ⟨m, n, hm, hn, h.idxOf_lt_iff hj hk hm hn⟩

/-- a key overwritten, removed and stored again, between a refused insertion and a push -/
def restoring : List (Edit Scalar) := [
  .insert (.name "a") (.integer .i32 1), .insert (.name "b") (.integer .i32 2), .insert (.name "a") (.integer .i32 3),
  .remove (.name "a"), .insert (.name "b") (.bool true), .insert (.name "a") (.integer .i32 4), .push (.integer .i32 5)]

/-- the run that restores the key, for numbers only -/
def restored : Run Scalar := .ofEdits (.ofType ⟨"i32"⟩) restoring

theorem restored_order :
    restored.catalog.keys = [.name "b", .name "a", .index 0] ∧
      (∃ m n, arrival? (.name "b") restored.trace = some m ∧ arrival? (.name "a") restored.trace = some n ∧
        (restored.catalog.keys.idxOf (.name "b") < restored.catalog.keys.idxOf (.name "a") ↔ m < n)) ∧
      Truthful (.remove (.name "a"), .former (some (.integer .i32 3))) (restored.trace.drop 4) := by
  have hkeys : restored.catalog.keys = [.name "b", .name "a", .index 0] := by decide +kernel
  obtain ⟨-, -, -, horder, htruthful⟩ := state_of_trace (.ofType ⟨"i32"⟩) restoring
  refine ⟨hkeys, horder _ (by decide +kernel) _ (by decide +kernel), htruthful _ _ ?_⟩
  exact List.drop_suffix 3 restored.trace

end Lexicon.Catalog
