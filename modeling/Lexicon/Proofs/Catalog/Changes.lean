/-
What each operation on a catalog does, said once. A check either passes silently or ends in a `rejection`, which names
the type of the item and its key and tells the log the same. So an insertion, a push, a change of the validator and the
gathering of entries each have two outcomes, and the equations below give both in full: the catalog afterwards, the
answer or failure, and the records. What depends on several entries is decided by the first one that is not accepted.
-/
import Lexicon.Proofs.Catalog.Entries

namespace Lexicon

/-! ## attempts one after the other -/

namespace Attempt

variable {β γ : Type}

@[simp] theorem result_done (b : β) : (done b).result = .ok b := rfl

@[simp] theorem result_noting (r : Record) (a : Attempt β) : (noting r a).result = a.result := rfl

theorem done_andThen (b : β) (next : β → Attempt γ) : (done b).andThen next = next b := by
  simp [andThen, done]

theorem andThen_of_error {a : Attempt β} {f : Failure} (h : a.result = .error f) (next : β → Attempt γ) :
    a.andThen next = ⟨.error f, a.log⟩ := by
  simp [andThen, h]

theorem result_andThen_of_ok {a : Attempt β} {b : β} (h : a.result = .ok b) (next : β → Attempt γ) :
    (a.andThen next).result = (next b).result := by
  simp [andThen, h]

theorem andThen_eq_ok {a : Attempt β} {next : β → Attempt γ} {c : γ} :
    (a.andThen next).result = .ok c ↔ ∃ b, a.result = .ok b ∧ (next b).result = .ok c := by
  cases h : a.result with
  | error f => simp [andThen_of_error h]
  | ok b => simp [result_andThen_of_ok h]

theorem andThen_eq_error {a : Attempt β} {next : β → Attempt γ} {f : Failure} :
    (a.andThen next).result = .error f ↔ a.result = .error f ∨ ∃ b, a.result = .ok b ∧ (next b).result = .error f := by
  cases h : a.result with
  | error g => simp [andThen_of_error h]
  | ok b => simp [result_andThen_of_ok h]

end Attempt

/-! ## the first of a list -/

/-- x is the n-th of a list, and the first with a property -/
structure IsFirst {β : Type} (r : β → Prop) (xs : List β) (n : Nat) (x : β) : Prop where
  here : xs[n]? = some x
  holds : r x
  before : ∀ m y, m < n → xs[m]? = some y → ¬ r y

theorem find?_eq_some_iff_isFirst {β : Type} {p : β → Bool} {xs : List β} {x : β} :
    xs.find? p = some x ↔ ∃ n, IsFirst (fun y => p y = true) xs n x := by
  rw [List.find?_eq_some_iff_getElem]
  constructor
  · rintro ⟨hx, n, hn, rfl, hbefore⟩
    refine ⟨n, List.getElem?_eq_getElem hn, hx, fun m y hm hy => ?_⟩
    obtain ⟨-, rfl⟩ := List.getElem?_eq_some_iff.1 hy
    simpa using hbefore m hm
  · rintro ⟨n, hn, hx, hbefore⟩
    obtain ⟨hlt, rfl⟩ := List.getElem?_eq_some_iff.1 hn
    refine ⟨hx, n, hlt, rfl, fun m hm => ?_⟩
    have hget : xs[m]? = some xs[m] := List.getElem?_eq_getElem (Nat.lt_trans hm hlt)
    simpa using hbefore m _ hm hget

/-- The first of a list is its head, or the first of the others behind a head without the property. -/
theorem isFirst_cons {β : Type} {r : β → Prop} {y : β} {ys : List β} {n : Nat} {x : β} :
    IsFirst r (y :: ys) n x ↔ n = 0 ∧ x = y ∧ r y ∨ ∃ m, n = m + 1 ∧ ¬ r y ∧ IsFirst r ys m x := by
  constructor
  · rintro ⟨hn, hx, hbefore⟩
    cases n with
    | zero =>
      obtain rfl := Option.some.inj hn
      exact Or.inl ⟨rfl, rfl, hx⟩
    | succ n =>
      refine Or.inr ⟨n, rfl, hbefore 0 y (Nat.succ_pos n) rfl, hn, hx, fun m z hm hz => ?_⟩
      exact hbefore (m + 1) z (Nat.succ_lt_succ hm) hz
  · rintro (⟨rfl, rfl, hx⟩ | ⟨m, rfl, hy, hn, hx, hbefore⟩)
    · exact ⟨rfl, hx, fun m z hm => absurd hm (Nat.not_lt_zero m)⟩
    · refine ⟨hn, hx, fun k z hk hz => ?_⟩
      cases k with
      | zero =>
        obtain rfl := Option.some.inj hz
        exact hy
      | succ k => exact hbefore k z (Nat.lt_of_succ_lt_succ hk) hz

/-! ## checks -/

namespace Validator

variable {α β : Type} [Typed α]

/-- what becomes of an item that is not accepted at a key -/
def rejection (k : Key) (x : α) : Attempt β :=
  ⟨.error ⟨.invalidItem (typeName x), some k⟩, [.rejected (typeName x) k]⟩

theorem check_eq (v : Validator α) (k : Key) (x : α) :
    v.check k x = if v.accepts x then .done () else rejection k x := by
  by_cases h : v.accepts x <;>
    simp [check, validate, h, rejection, Attempt.noting, Attempt.fail, Failure.concerning, Failure.of]

theorem check_of_accepts {v : Validator α} {x : α} (h : v.accepts x = true) (k : Key) : v.check k x = .done () := by
  simp [check_eq, h]

theorem check_of_not_accepts {v : Validator α} {x : α} (h : v.accepts x = false) (k : Key) :
    v.check k x = rejection k x := by
  simp [check_eq, h]

theorem rejection_andThen {γ : Type} (k : Key) (x : α) (next : β → Attempt γ) :
    (rejection k x : Attempt β).andThen next = rejection k x := rfl

/-- the first entry whose item is not accepted -/
def offender? (v : Validator α) (es : List (Key × α)) : Option (Key × α) := es.find? fun e => !v.accepts e.2

theorem offender?_eq_none {v : Validator α} {es : List (Key × α)} :
    v.offender? es = none ↔ ∀ e ∈ es, v.accepts e.2 = true := by
  simp [offender?, List.find?_eq_none]

theorem offender?_eq_some {v : Validator α} {es : List (Key × α)} {e : Key × α} :
    v.offender? es = some e ↔ ∃ n, IsFirst (fun e : Key × α => v.accepts e.2 = false) es n e := by
  rw [Validator.offender?, find?_eq_some_iff_isFirst]
  simp only [Bool.not_eq_true']

theorem checkAll_eq (v : Validator α) (es : List (Key × α)) :
    v.checkAll es =
      match v.offender? es with
      | none => .done ()
      | some e => rejection e.1 e.2 := by
  induction es with
  | nil => rfl
  | cons e rest ih =>
    obtain ⟨k, x⟩ := e
    cases h : v.accepts x with
    | false => simp [checkAll, check_of_not_accepts h, rejection_andThen, offender?, h]
    | true => simpa [checkAll, check_of_accepts h, Attempt.done_andThen, offender?, h] using ih

end Validator

/-! ## operations -/

namespace Catalog

open Validator

variable {α : Type} [Typed α]

theorem gather_eq (v : Validator α) (acc : Entries Key α) (es : List (Key × α)) :
    gather v acc es =
      match v.offender? es with
      | none => .done (es.foldl (fun acc e => acc.put e.1 e.2) acc)
      | some e => rejection e.1 e.2 := by
  induction es generalizing acc with
  | nil => rfl
  | cons e rest ih =>
    obtain ⟨k, x⟩ := e
    cases h : v.accepts x with
    | false => simp [gather, check_of_not_accepts h, rejection_andThen, offender?, h]
    | true => simpa [gather, check_of_accepts h, Attempt.done_andThen, offender?, h] using ih (acc.put k x)

theorem ofEntries_eq (es : List (Key × α)) (v : Validator α) :
    ofEntries es v =
      match v.offender? es with
      | none => .done ⟨Entries.collect es, v⟩
      | some e => rejection e.1 e.2 := by
  rw [ofEntries, gather_eq]
  cases v.offender? es <;> rfl

theorem ofEntries_ok {es : List (Key × α)} {v : Validator α} {s : Catalog α} :
    (ofEntries es v).result = .ok s ↔ (∀ e ∈ es, v.accepts e.2 = true) ∧ s = ⟨Entries.collect es, v⟩ := by
  rw [ofEntries_eq, ← offender?_eq_none]
  cases v.offender? es with
  | none => simp [eq_comm]
  | some e => simp [rejection]

theorem insert_eq (s : Catalog α) (k : Key) (x : α) :
    s.insert k x =
      if s.validator.accepts x then ⟨⟨s.entries.put k x, s.validator⟩, .done (s.entries.at? k)⟩
      else ⟨s, rejection k x⟩ := by
  cases h : s.validator.accepts x with
  | false => simp [insert, check_of_not_accepts h, rejection]
  | true => simp [insert, check_of_accepts h, Attempt.done]

theorem push_eq (s : Catalog α) (x : α) :
    s.push x =
      match s.nextIndex with
      | .error f => ⟨s, .fail f⟩
      | .ok i =>
        if s.validator.accepts x then ⟨⟨s.entries.put (.index i) x, s.validator⟩, .done (.index i)⟩
        else ⟨s, rejection (.index i) x⟩ := by
  unfold push
  cases s.nextIndex with
  | error f => rfl
  | ok i =>
    simp only [insert_eq]
    split_ifs <;> rfl

theorem setValidator_eq (s : Catalog α) (v : Validator α) :
    s.setValidator v =
      match v.offender? s.entries with
      | none => ⟨⟨s.entries, v⟩, .done ()⟩
      | some e =>
        let f : Failure := ⟨.invalidItem (typeName e.2), some e.1⟩
        ⟨s, ⟨.error f, [.rejected (typeName e.2) e.1, .refused f]⟩⟩ := by
  rw [setValidator, checkAll_eq]
  cases v.offender? s.entries <;> rfl

end Catalog

end Lexicon
