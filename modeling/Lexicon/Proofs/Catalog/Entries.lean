/-
Entries as a map with an order. `at?` is the map: `at?_put` and `at?_erase` say what a change does to every key.
`keys` is the order: a put appends a new key behind all others and leaves the order of known keys alone (`keys_put`),
an erasure closes the gap (`keys_erase`). Distinct keys stay distinct, and entries with distinct keys are stored one
after the other as they stand (`collect_eq`). A catalog has as many items as entries (`length_items`). Positions are
distinct keys as long as 64 bits can count them (`keys_numbered_nodup`).
-/
import Mathlib.Algebra.Group.Nat.Defs
import Mathlib.Data.List.Induction
import Mathlib.Data.List.Nodup
import Mathlib.Tactic.Common
import Lexicon.Catalog.Basic

namespace Lexicon.Entries

variable {κ α : Type} [DecidableEq κ]

/-! ## the map -/

theorem at?_put (k k' : κ) (x : α) (es : Entries κ α) :
    at? k' (put k x es) = if k = k' then some x else at? k' es := by
  induction es with
  | nil => simp [put, at?]
  | cons e rest ih =>
    obtain ⟨j, y⟩ := e
    by_cases hj : j = k
    · subst hj
      by_cases hk : j = k' <;> simp [put, at?, hk]
    · simp only [put, hj, if_false, at?]
      by_cases hk : j = k'
      · subst hk
        simp [Ne.symm hj]
      · simp [hk, ih]

theorem at?_eq_none {k : κ} {es : Entries κ α} : at? k es = none ↔ k ∉ keys es := by
  induction es with
  | nil => simp [at?, keys]
  | cons e rest ih =>
    obtain ⟨j, y⟩ := e
    by_cases hj : j = k
    · simp [at?, keys, hj]
    · simpa [at?, keys, hj, Ne.symm hj] using ih

theorem mem_keys {k : κ} {es : Entries κ α} : k ∈ keys es ↔ ∃ x, at? k es = some x := by
  rw [← Option.isSome_iff_exists, ← Option.ne_none_iff_isSome, Ne, at?_eq_none, not_not]

theorem at?_erase (k k' : κ) {es : Entries κ α} (h : (keys es).Nodup) :
    at? k' (erase k es) = if k = k' then none else at? k' es := by
  induction es with
  | nil => simp [erase, at?]
  | cons e rest ih =>
    obtain ⟨j, y⟩ := e
    obtain ⟨hj, hrest⟩ := List.nodup_cons.1 h
    by_cases hjk : j = k
    · subst hjk
      by_cases hk : j = k'
      · subst hk
        simpa [erase] using at?_eq_none.2 hj
      · simp [erase, at?, hk]
    · simp only [erase, hjk, if_false, at?]
      by_cases hk : j = k'
      · subst hk
        simp [Ne.symm hjk]
      · simp [hk, ih hrest]

theorem mem_of_at? {k : κ} {x : α} {es : Entries κ α} (h : at? k es = some x) : (k, x) ∈ es := by
  induction es with
  | nil => simp [at?] at h
  | cons e rest ih =>
    obtain ⟨j, y⟩ := e
    by_cases hj : j = k
    · simp only [at?, hj, if_true, Option.some.injEq] at h
      simp [hj, h]
    · simp only [at?, hj, if_false] at h
      exact List.mem_cons_of_mem _ (ih h)

/-! ## the order -/

theorem put_of_not_mem {k : κ} {es : Entries κ α} (h : k ∉ keys es) (x : α) : put k x es = es ++ [(k, x)] := by
  induction es with
  | nil => rfl
  | cons e rest ih =>
    simp only [keys, List.map_cons, List.mem_cons, not_or] at h
    simp [put, Ne.symm h.1, ih h.2]

theorem keys_put (k : κ) (x : α) (es : Entries κ α) :
    keys (put k x es) = if k ∈ keys es then keys es else keys es ++ [k] := by
  by_cases h : k ∈ keys es
  · rw [if_pos h]
    induction es with
    | nil => simp [keys] at h
    | cons e rest ih =>
      by_cases he : e.1 = k
      · simp [put, keys, he]
      · have hrest : k ∈ keys rest := by simpa [keys, Ne.symm he] using h
        simpa [put, keys, he] using ih hrest
  · rw [if_neg h, put_of_not_mem h]
    simp [keys]

theorem keys_erase (k : κ) (es : Entries κ α) : keys (erase k es) = (keys es).erase k := by
  induction es with
  | nil => rfl
  | cons e rest ih =>
    by_cases he : e.1 = k
    · simp [erase, keys, he]
    · simpa [erase, keys, he, List.erase_cons_tail] using ih

theorem mem_put {k : κ} {x : α} {es : Entries κ α} {e : κ × α} (h : e ∈ put k x es) : e = (k, x) ∨ e ∈ es := by
  induction es with
  | nil => simpa [put] using h
  | cons f rest ih =>
    obtain ⟨j, y⟩ := f
    by_cases hj : j = k
    · simp only [put, hj, if_true, List.mem_cons] at h
      exact h.imp_right (List.mem_cons_of_mem _)
    · simp only [put, hj, if_false, List.mem_cons] at h
      rcases h with rfl | h
      · exact Or.inr List.mem_cons_self
      · exact (ih h).imp_right (List.mem_cons_of_mem _)

theorem erase_sublist (k : κ) (es : Entries κ α) : (erase k es).Sublist es := by
  induction es with
  | nil => exact List.Sublist.refl _
  | cons e rest ih =>
    by_cases he : e.1 = k
    · simp [erase, he]
    · simpa [erase, he] using ih

/-! ## distinct keys -/

theorem nodup_put {es : Entries κ α} (h : (keys es).Nodup) (k : κ) (x : α) : (keys (put k x es)).Nodup := by
  rw [keys_put]
  split_ifs with hk
  · exact h
  · rw [List.nodup_append]
    refine ⟨h, List.nodup_singleton k, fun a ha b hb => ?_⟩
    rw [List.mem_singleton.1 hb]
    rintro rfl
    exact hk ha

theorem nodup_erase {es : Entries κ α} (h : (keys es).Nodup) (k : κ) : (keys (erase k es)).Nodup := by
  rw [keys_erase]
  exact h.erase k

/-- entries stored one after the other, from the last one backwards -/
theorem collect_snoc (es : List (κ × α)) (e : κ × α) : collect (es ++ [e]) = put e.1 e.2 (collect es) := by
  simp [collect, List.foldl_append]

theorem nodup_collect (es : List (κ × α)) : (keys (collect es)).Nodup := by
  induction es using List.reverseRecOn with
  | nil => exact List.nodup_nil
  | append_singleton es e ih =>
    rw [collect_snoc]
    exact nodup_put ih e.1 e.2

theorem collect_eq_nil {es : List (κ × α)} : collect es = [] ↔ es = [] := by
  refine ⟨fun h => ?_, by rintro rfl; rfl⟩
  rcases List.eq_nil_or_concat es with rfl | ⟨before, e, rfl⟩
  · rfl
  · rw [List.concat_eq_append, collect_snoc] at h
    have hkey : e.1 ∈ keys (put e.1 e.2 (collect before)) := by
      rw [mem_keys, at?_put, if_pos rfl]
      exact ⟨e.2, rfl⟩
    rw [h] at hkey
    cases hkey

theorem mem_collect {es : List (κ × α)} {e : κ × α} (h : e ∈ collect es) : e ∈ es := by
  induction es using List.reverseRecOn with
  | nil => exact h
  | append_singleton es f ih =>
    rw [collect_snoc] at h
    rcases mem_put h with rfl | h
    · simp
    · exact List.mem_append_left _ (ih h)

theorem collect_eq {es : List (κ × α)} (h : (keys es).Nodup) : collect es = es := by
  induction es using List.reverseRecOn with
  | nil => rfl
  | append_singleton es e ih =>
    simp only [keys, List.map_append, List.map_cons, List.map_nil, List.nodup_append] at h
    have hes : collect es = es := ih h.1
    rw [collect_snoc, hes]
    exact put_of_not_mem (fun hk => h.2.2 _ hk _ (List.mem_singleton_self _) rfl) e.2

end Lexicon.Entries

namespace Lexicon.Catalog

variable {α : Type}

/-! ## items -/

theorem length_items (s : Catalog α) : s.items.length = s.size := List.length_map _

theorem length_filter_items_le (s : Catalog α) (p : α → Bool) : (s.items.filter p).length ≤ s.size := by
  rw [← length_items]
  exact List.length_filter_le p s.items

/-! ## positions as keys -/

/-- how many positions keys can tell apart -/
def positionLimit : Nat := 2 ^ 64

theorem position_inj {m n : Nat} (hm : m < positionLimit) (hn : n < positionLimit)
    (h : Key.position m = Key.position n) : m = n := by
  rw [positionLimit] at hm hn
  have hbits : (Int64.ofNat m).toBitVec = (Int64.ofNat n).toBitVec := congrArg Int64.toBitVec (Key.index.inj h)
  have hmod := congrArg BitVec.toNat hbits
  rw [Int64.toBitVec_ofNat', Int64.toBitVec_ofNat', BitVec.toNat_ofNat, BitVec.toNat_ofNat] at hmod
  rwa [Nat.mod_eq_of_lt hm, Nat.mod_eq_of_lt hn] at hmod

@[simp] theorem items_numbered (xs : List α) : Entries.items (numbered xs) = xs := by
  simp [numbered, Entries.items, Function.comp_def]

theorem size_numbered (xs : List α) (v : Validator α) : size ⟨numbered xs, v⟩ = xs.length := by
  rw [← length_items]
  exact congrArg List.length (items_numbered xs)

theorem keys_numbered (xs : List α) : Entries.keys (numbered xs) = (List.range xs.length).map Key.position := by
  rw [List.range_eq_range', ← List.zipIdx_map_snd 0 xs, List.map_map]
  simp [numbered, Entries.keys, Function.comp_def]

theorem keys_numbered_nodup {xs : List α} (h : xs.length ≤ positionLimit) :
    (Entries.keys (numbered xs)).Nodup := by
  rw [keys_numbered]
  refine List.nodup_range.map_on fun m hm n hn => position_inj ?_ ?_
  · exact Nat.lt_of_lt_of_le (List.mem_range.1 hm) h
  · exact Nat.lt_of_lt_of_le (List.mem_range.1 hn) h

end Lexicon.Catalog
