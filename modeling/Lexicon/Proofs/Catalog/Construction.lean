/-
Ways of making a catalog from items. Entries can be gathered in one go or inserted one by one; items can be numbered
and gathered, pushed one by one, or stored without a validator that is set afterwards. `insertAll` and `pushAll` are the
ways one by one: they go on with the catalog an operation leaves and stop at the first failure (`insertAll_error`). An
operation checks its item before it stores it, as gathering does, so each step of one way is a step of the other
(`insertAll_eq_gather`); behind numbered items a push is an insertion at the next position (`pushAll_numbered`).

Results: `constructions_agree`.
-/
import Lexicon.Proofs.Catalog.Changes
import Lexicon.Proofs.Catalog.NextIndex
import Lexicon.Scalar

namespace Lexicon

/-! ## sequences of attempts -/

namespace Attempt

variable {β γ : Type} {op : β → γ → Attempt β} {b : β}

theorem foldlM_cons (y : γ) (ys : List γ) :
    (y :: ys).foldlM op b = (op b y).andThen fun c => ys.foldlM op c := List.foldlM_cons

/-- The failure of a sequence is that of the first step to fail. -/
theorem foldlM_error {xs : List γ} {f : Failure} :
    (xs.foldlM op b).result = .error f ↔
      ∃ before x after c, xs = before ++ x :: after ∧ (before.foldlM op b).result = .ok c ∧
        (op c x).result = .error f := by
  induction xs generalizing b with
  | nil =>
    constructor
    · rintro ⟨⟩
    · rintro ⟨before, x, after, c, hxs, -⟩
      simp at hxs
  | cons y ys ih =>
    rw [foldlM_cons, andThen_eq_error]
    constructor
    · rintro (hy | ⟨d, hd, hlater⟩)
      · exact ⟨[], y, ys, b, rfl, rfl, hy⟩
      · obtain ⟨before, x, after, c, rfl, hbefore, hx⟩ := ih.1 hlater
        refine ⟨y :: before, x, after, c, rfl, ?_, hx⟩
        rw [foldlM_cons, andThen_eq_ok]
        exact ⟨d, hd, hbefore⟩
    · rintro ⟨before, x, after, c, hxs, hbefore, hx⟩
      cases before with
      | nil =>
        obtain ⟨rfl, rfl⟩ := List.cons.inj hxs
        obtain rfl : b = c := Except.ok.inj hbefore
        exact Or.inl hx
      | cons z zs =>
        obtain ⟨rfl, rfl⟩ := List.cons.inj hxs
        rw [foldlM_cons, andThen_eq_ok] at hbefore
        obtain ⟨d, hd, hzs⟩ := hbefore
        exact Or.inr ⟨d, hd, ih.2 ⟨zs, x, after, c, rfl, hzs, hx⟩⟩

end Attempt

/-- the catalog that an operation leaves, if it succeeds -/
def Change.after {α β : Type} (c : Change α β) : Attempt (Catalog α) := c.outcome.andThen fun _ => .done c.catalog

theorem Change.after_error {α β : Type} {c : Change α β} {f : Failure} :
    c.after.result = .error f ↔ c.outcome.result = .error f := by
  simp [after, Attempt.andThen_eq_error]

namespace Catalog

open Validator

variable {α : Type} [Typed α]

/-! ## one by one -/

/-- inserts entries in order, up to the first failure -/
def insertAll (s : Catalog α) (es : List (Key × α)) : Attempt (Catalog α) :=
  es.foldlM (fun s e => (s.insert e.1 e.2).after) s

/-- pushes items in order, up to the first failure -/
def pushAll (s : Catalog α) (xs : List α) : Attempt (Catalog α) := xs.foldlM (fun s x => (s.push x).after) s

theorem after_insert (s : Catalog α) (k : Key) (x : α) :
    (s.insert k x).after =
      if s.validator.accepts x then .done ⟨s.entries.put k x, s.validator⟩ else rejection k x := by
  rw [insert_eq]
  split_ifs <;> rfl

theorem after_push {s : Catalog α} {i : Int64} (h : s.nextIndex = .ok i) (x : α) :
    (s.push x).after = (s.insert (.index i) x).after := by
  rw [push_eq, h, after_insert]
  simp only
  split_ifs <;> rfl

theorem insertAll_cons (s : Catalog α) (k : Key) (x : α) (es : List (Key × α)) :
    insertAll s ((k, x) :: es) =
      if s.validator.accepts x then insertAll ⟨s.entries.put k x, s.validator⟩ es else rejection k x := by
  change (s.insert k x).after.andThen (fun t => insertAll t es) = _
  rw [after_insert]
  split_ifs
  · exact Attempt.done_andThen _ _
  · rfl

theorem pushAll_cons {s : Catalog α} {i : Int64} (h : s.nextIndex = .ok i) (x : α) (xs : List α) :
    pushAll s (x :: xs) =
      if s.validator.accepts x then pushAll ⟨s.entries.put (.index i) x, s.validator⟩ xs
      else rejection (.index i) x := by
  change (s.push x).after.andThen (fun t => pushAll t xs) = _
  rw [after_push h, after_insert]
  split_ifs
  · exact Attempt.done_andThen _ _
  · rfl

/-- Insertions one by one fail as the first insertion that fails. -/
theorem insertAll_error {s : Catalog α} {es : List (Key × α)} {f : Failure} :
    (insertAll s es).result = .error f ↔
      ∃ before k x after t, es = before ++ (k, x) :: after ∧ (insertAll s before).result = .ok t ∧
        (t.insert k x).outcome.result = .error f := by
  rw [insertAll, Attempt.foldlM_error]
  constructor
  · rintro ⟨before, ⟨k, x⟩, after, t, hes, hbefore, hx⟩
    exact ⟨before, k, x, after, t, hes, hbefore, Change.after_error.1 hx⟩
  · rintro ⟨before, k, x, after, t, hes, hbefore, hx⟩
    exact ⟨before, (k, x), after, t, hes, hbefore, Change.after_error.2 hx⟩

/-! ## entries -/

theorem insertAll_eq_gather (v : Validator α) (acc : Entries Key α) (es : List (Key × α)) :
    insertAll ⟨acc, v⟩ es = (gather v acc es).andThen fun es => .done ⟨es, v⟩ := by
  induction es generalizing acc with
  | nil => rfl
  | cons e rest ih =>
    obtain ⟨k, x⟩ := e
    rw [insertAll_cons, gather, check_eq]
    split_ifs with hx
    · rw [Attempt.done_andThen]
      exact ih (acc.put k x)
    · rfl

theorem insertAll_eq_ofEntries (v : Validator α) (es : List (Key × α)) : insertAll ⟨[], v⟩ es = ofEntries es v :=
  insertAll_eq_gather v [] es

/-! ## items -/

/-- Behind numbered items a push is an insertion at the next position. -/
theorem pushAll_numbered (v : Validator α) (xs ys : List α) (h : xs.length + ys.length ≤ maxItems) :
    pushAll ⟨numbered xs, v⟩ ys =
      insertAll ⟨numbered xs, v⟩ ((ys.zipIdx xs.length).map fun p => (Key.position p.2, p.1)) := by
  induction ys generalizing xs with
  | nil => rfl
  | cons y ys ih =>
    rw [List.length_cons] at h
    have hnext : nextIndex ⟨numbered xs, v⟩ = .ok (Int64.ofNat xs.length) := nextIndex_numbered (by omega) v
    have hfresh : Key.position xs.length ∉ Entries.keys (numbered xs) :=
      position_not_mem (Nat.lt_of_lt_of_le (by omega) maxItems_le_positionLimit) (Nat.le_refl _)
    have hput : Entries.put (Key.position xs.length) y (numbered xs) = numbered (xs ++ [y]) := by
      rw [Entries.put_of_not_mem hfresh, numbered_snoc]
    have hlength : (xs ++ [y]).length = xs.length + 1 := by simp
    rw [pushAll_cons hnext, List.zipIdx_cons, List.map_cons, insertAll_cons]
    split_ifs
    · have hrest := ih (xs ++ [y]) (by rw [hlength]; omega)
      rw [hlength, ← hput] at hrest
      exact hrest
    · rfl

theorem pushAll_eq_withValidator (v : Validator α) {xs : List α} (h : xs.length ≤ maxItems) :
    pushAll ⟨[], v⟩ xs = withValidator xs v := by
  have hpush := pushAll_numbered v [] xs (by simpa using h)
  exact hpush.trans (insertAll_eq_ofEntries v (numbered xs))

omit [Typed α] in
theorem collect_numbered {xs : List α} (h : xs.length ≤ maxItems) :
    Entries.collect (numbered xs) = numbered xs :=
  Entries.collect_eq (keys_numbered_nodup (Nat.le_trans h maxItems_le_positionLimit))

theorem withValidator_result (v : Validator α) {xs : List α} (h : xs.length ≤ maxItems) :
    (withValidator xs v).result =
      match v.offender? (numbered xs) with
      | none => .ok ⟨numbered xs, v⟩
      | some e => .error ⟨.invalidItem (typeName e.2), some e.1⟩ := by
  rw [withValidator, ofEntries_eq, collect_numbered h]
  cases v.offender? (numbered xs) <;> rfl

theorem setValidator_ofItems_result (v : Validator α) {xs : List α} (h : xs.length ≤ maxItems) :
    ((ofItems xs).setValidator v).after.result = (withValidator xs v).result := by
  rw [withValidator_result v h, setValidator_eq, ofItems, collect_numbered h]
  cases v.offender? (numbered xs) <;> rfl

omit [Typed α] in
theorem getElem?_numbered (xs : List α) (n : Nat) :
    (numbered xs)[n]? = xs[n]?.map fun x => (Key.position n, x) := by
  simp [numbered, List.getElem?_zipIdx, Function.comp_def]

omit [Typed α] in
/-- The first item of a kind is the first entry of the kind among items keyed by position. -/
theorem isFirst_numbered {r : α → Prop} {xs : List α} {n : Nat} {e : Key × α} :
    IsFirst (fun e => r e.2) (numbered xs) n e ↔ e.1 = .position n ∧ IsFirst r xs n e.2 := by
  obtain ⟨k, x⟩ := e
  constructor
  · rintro ⟨hn, hx, hbefore⟩
    rw [getElem?_numbered, Option.map_eq_some_iff] at hn
    obtain ⟨y, hy, hentry⟩ := hn
    cases hentry
    refine ⟨rfl, hy, hx, fun m z hm hz => hbefore m (.position m, z) hm ?_⟩
    rw [getElem?_numbered, hz, Option.map_some]
  · rintro ⟨rfl, hn, hx, hbefore⟩
    refine ⟨by rw [getElem?_numbered, hn, Option.map_some], hx, fun m e hm he => ?_⟩
    rw [getElem?_numbered, Option.map_eq_some_iff] at he
    obtain ⟨y, hy, rfl⟩ := he
    exact hbefore m y hm hy

omit [Typed α] in
theorem forall_mem_numbered {r : α → Prop} {xs : List α} : (∀ e ∈ numbered xs, r e.2) ↔ ∀ x ∈ xs, r x := by
  conv_rhs => rw [← items_numbered xs, Entries.items, List.forall_mem_map]

/-- Items stored under a validator are all accepted and keyed by their positions. -/
theorem withValidator_eq_ok {v : Validator α} {xs : List α} {s : Catalog α} (h : xs.length ≤ maxItems) :
    (withValidator xs v).result = .ok s ↔ (∀ x ∈ xs, v.accepts x = true) ∧ s = ⟨numbered xs, v⟩ := by
  rw [withValidator, ofEntries_ok, collect_numbered h, forall_mem_numbered (r := fun x => v.accepts x = true)]

/-- items under a validator: they are all accepted and stand in order at their positions, or the first of them that is
not accepted is named with its position -/
def Judged (v : Validator α) (xs : List α) (r : Except Failure (Catalog α)) : Prop :=
  (∃ s, r = .ok s ∧ s.keys = (List.range xs.length).map Key.position ∧ s.items = xs ∧ s.validator = v) ∨
    ∃ n x, xs[n]? = some x ∧ v.accepts x = false ∧ (∀ m y, m < n → xs[m]? = some y → v.accepts y = true) ∧
      r = .error ⟨.invalidItem (typeName x), some (.position n)⟩

theorem judged_withValidator (v : Validator α) {xs : List α} (h : xs.length ≤ maxItems) :
    Judged v xs (withValidator xs v).result := by
  rw [withValidator_result v h]
  cases ho : v.offender? (numbered xs) with
  | none => exact Or.inl ⟨_, rfl, keys_numbered xs, items_numbered xs, rfl⟩
  | some e =>
    obtain ⟨n, hfirst⟩ := offender?_eq_some.1 ho
    obtain ⟨hk, hn, hx, hbefore⟩ := (isFirst_numbered (r := fun x => v.accepts x = false)).1 hfirst
    refine Or.inr ⟨n, e.2, hn, hx, fun m y hm hy => ?_, hk ▸ rfl⟩
    simpa using hbefore m y hm hy

/-! ## agreement -/

/-- **The ways of making a catalog agree.** Entries gathered under a validator are the entries inserted one by one into
an empty catalog with that validator, with the same failure as the first insertion to fail. Items stored under a
validator, items pushed one by one onto an empty catalog with it, and items stored freely before it is set, have one
outcome: the items in order at their positions, or the first item that is not accepted, with its position. -/
theorem constructions_agree (v : Validator α) :
    (empty.setValidator v).catalog = ⟨[], v⟩ ∧
      (∀ es, ofEntries es v = insertAll ⟨[], v⟩ es) ∧
      (∀ es f, (ofEntries es v).result = .error f ↔
        ∃ before k x after t, es = before ++ (k, x) :: after ∧ (insertAll ⟨[], v⟩ before).result = .ok t ∧
          (t.insert k x).outcome.result = .error f) ∧
      ∀ xs : List α, xs.length ≤ maxItems →
        pushAll ⟨[], v⟩ xs = withValidator xs v ∧
          ((ofItems xs).setValidator v).after.result = (withValidator xs v).result ∧
          Judged v xs (withValidator xs v).result := by
  refine ⟨rfl, fun es => (insertAll_eq_ofEntries v es).symm, fun es f => ?_, fun xs h => ?_⟩
  · rw [← insertAll_eq_ofEntries, insertAll_error]
  · exact ⟨pushAll_eq_withValidator v h, setValidator_ofItems_result v h, judged_withValidator v h⟩

/-- a number, a truth value, and a number -/
def mixed : List Scalar := [.integer .i32 1, .bool true, .integer .i32 2]

theorem mixed_refused :
    mixed.length ≤ maxItems ∧
      (pushAll ⟨[], .ofType ⟨"i32"⟩⟩ mixed).result = .error ⟨.invalidItem "bool", some (.index 1)⟩ ∧
      ((ofItems mixed).setValidator (.ofType ⟨"i32"⟩)).after.result =
        .error ⟨.invalidItem "bool", some (.index 1)⟩ := by
  have hlength : mixed.length ≤ maxItems := by decide
  obtain ⟨-, -, -, hitems⟩ := constructions_agree (α := Scalar) (.ofType ⟨"i32"⟩)
  obtain ⟨hpush, hset, -⟩ := hitems mixed hlength
  have hmade : (withValidator mixed (.ofType ⟨"i32"⟩)).result = .error ⟨.invalidItem "bool", some (.index 1)⟩ := rfl
  exact ⟨hlength, hpush ▸ hmade, hset.trans hmade⟩

end Catalog

end Lexicon
