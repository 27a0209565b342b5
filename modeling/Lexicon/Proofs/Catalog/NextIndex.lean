/-
The index behind the greatest one. The search for the greatest index among keys passes over names and finds an index
exactly if it is there and no other index is greater (`greatestIndex?_eq_some`). Keys by position are filled from 0 on,
so the next index is the number of items, as long as an index can tell it (`nextIndex_numbered`). The position of an
item in a list is an index of the same value (`isIndex_iff`).
-/
import Lexicon.Proofs.Catalog.Entries

namespace Lexicon

/-- the key is the integer n -/
def Key.IsIndex (k : Key) (n : Nat) : Prop := ∃ i : Int64, k = .index i ∧ i.toInt = n

namespace Catalog

variable {α : Type}

/-! ## the greatest index -/

theorem greatestIndex?_snoc_name (ks : List Key) (s : String) :
    greatestIndex? (ks ++ [.name s]) = greatestIndex? ks := by
  unfold greatestIndex?
  rw [List.filterMap_append, List.foldl_append]
  rfl

theorem greatestIndex?_snoc_first {ks : List Key} (h : greatestIndex? ks = none) (i : Int64) :
    greatestIndex? (ks ++ [.index i]) = some i := by
  unfold greatestIndex? at h ⊢
  rw [List.filterMap_append, List.foldl_append, h]
  rfl

theorem greatestIndex?_snoc_index {ks : List Key} {j : Int64} (h : greatestIndex? ks = some j) (i : Int64) :
    greatestIndex? (ks ++ [.index i]) = some (if j < i then i else j) := by
  unfold greatestIndex? at h ⊢
  rw [List.filterMap_append, List.foldl_append, h]
  rfl

/-- m is an index among the keys, and no index among them is greater -/
def IsGreatestIndex (ks : List Key) (m : Int64) : Prop := .index m ∈ ks ∧ ∀ i, .index i ∈ ks → i ≤ m

theorem greatestIndex?_spec (ks : List Key) :
    (greatestIndex? ks = none ∧ ∀ i, .index i ∉ ks) ∨ ∃ m, greatestIndex? ks = some m ∧ IsGreatestIndex ks m := by
  induction ks using List.reverseRecOn with
  | nil => exact Or.inl ⟨rfl, by simp⟩
  | append_singleton ks k ih =>
    cases k with
    | name s => simpa [greatestIndex?_snoc_name, IsGreatestIndex] using ih
    | index i =>
      refine Or.inr ?_
      rcases ih with ⟨hnone, hks⟩ | ⟨m, hm, hmem, hle⟩
      · refine ⟨i, greatestIndex?_snoc_first hnone i, by simp, fun j hj => ?_⟩
        obtain rfl : j = i := by simpa [hks j] using hj
        exact Int64.le_refl j
      · rw [greatestIndex?_snoc_index hm]
        split_ifs with hlt
        · refine ⟨i, rfl, by simp, fun j hj => ?_⟩
          rcases List.mem_append.1 hj with hj | hj
          · exact Int64.le_trans (hle j hj) (Int64.le_of_lt hlt)
          · obtain rfl : j = i := by simpa using hj
            exact Int64.le_refl j
        · refine ⟨m, rfl, List.mem_append_left _ hmem, fun j hj => ?_⟩
          rcases List.mem_append.1 hj with hj | hj
          · exact hle j hj
          · obtain rfl : j = i := by simpa using hj
            exact Int64.not_lt.1 hlt

theorem greatestIndex?_eq_some {ks : List Key} {m : Int64} : greatestIndex? ks = some m ↔ IsGreatestIndex ks m := by
  rcases greatestIndex?_spec ks with ⟨hnone, hks⟩ | ⟨n, hn, hgreatest⟩
  · rw [hnone]
    exact ⟨fun h => absurd h.symm (Option.some_ne_none m), fun h => absurd h.1 (hks m)⟩
  · rw [hn, Option.some.injEq]
    constructor
    · rintro rfl
      exact hgreatest
    · intro h
      exact Int64.le_antisymm (h.2 n hgreatest.1) (hgreatest.2 m h.1)

/-! ## keys by position -/

/-- how many items a list can have -/
def maxItems : Nat := 2 ^ 63 - 1

theorem maxItems_le_positionLimit : maxItems ≤ positionLimit := by decide

/-- Indices of positions are the positions themselves, as far as a list goes. -/
theorem isIndex_iff {k : Key} {n : Nat} : k.IsIndex n ↔ n ≤ maxItems ∧ k = .position n := by
  rw [maxItems]
  constructor
  · rintro ⟨i, rfl, hi⟩
    have hlt := i.toInt_lt
    have hposition : i = Int64.ofNat n := by
      rw [← Int64.toInt_inj, hi, Int64.toInt_ofNat_of_lt (by omega)]
    exact ⟨by omega, congrArg Key.index hposition⟩
  · rintro ⟨hn, rfl⟩
    exact ⟨Int64.ofNat n, rfl, Int64.toInt_ofNat_of_lt (by omega)⟩

theorem numbered_snoc (xs : List α) (x : α) : numbered (xs ++ [x]) = numbered xs ++ [(.position xs.length, x)] := by
  simp [numbered, List.zipIdx_append]

theorem position_not_mem {xs : List α} {n : Nat} (hn : n < positionLimit) (h : xs.length ≤ n) :
    Key.position n ∉ Entries.keys (numbered xs) := by
  rw [keys_numbered, List.mem_map]
  rintro ⟨m, hm, heq⟩
  have hlt : m < n := Nat.lt_of_lt_of_le (List.mem_range.1 hm) h
  exact Nat.ne_of_lt hlt (position_inj (Nat.lt_trans hlt hn) hn heq)

theorem isGreatestIndex_numbered {xs : List α} {m : Nat} (hlen : xs.length = m + 1) (hm : m < maxItems) :
    IsGreatestIndex (Entries.keys (numbered xs)) (Int64.ofNat m) := by
  rw [maxItems] at hm
  rw [keys_numbered, hlen]
  refine ⟨List.mem_map.2 ⟨m, by simp, rfl⟩, fun i hi => ?_⟩
  obtain ⟨n, hn, hkey⟩ := List.mem_map.1 hi
  have hn := List.mem_range.1 hn
  obtain rfl : Int64.ofNat n = i := Key.index.inj hkey
  rw [Int64.le_iff_toInt_le, Int64.toInt_ofNat_of_lt (by omega), Int64.toInt_ofNat_of_lt (by omega)]
  omega

/-- Behind items keyed by their positions comes the position after the last. -/
theorem nextIndex_numbered {xs : List α} (h : xs.length < maxItems) (v : Validator α) :
    nextIndex ⟨numbered xs, v⟩ = .ok (Int64.ofNat xs.length) := by
  cases hlen : xs.length with
  | zero =>
    obtain rfl := List.length_eq_zero_iff.1 hlen
    rfl
  | succ m =>
    rw [hlen, maxItems] at h
    have hgreatest : greatestIndex? (keys ⟨numbered xs, v⟩) = some (Int64.ofNat m) :=
      greatestIndex?_eq_some.2 (isGreatestIndex_numbered hlen (by rw [maxItems]; omega))
    have hsucc : Int64.ofNat m + 1 = Int64.ofNat (m + 1) := (Int64.ofNat_add m 1).symm
    have hmax : Int64.ofNat m ≠ Int64.maxValue := by
      rw [Ne, ← Int64.toInt_inj, Int64.toInt_ofNat_of_lt (by omega), Int64.toInt_maxValue]
      omega
    have hpos : ¬ Int64.ofNat (m + 1) < 0 := by
      rw [Int64.lt_iff_toInt_lt, Int64.toInt_ofNat_of_lt (by omega), Int64.toInt_zero]
      omega
    simp only [nextIndex, hgreatest, hmax, if_false, hsucc, hpos]

end Catalog

end Lexicon
