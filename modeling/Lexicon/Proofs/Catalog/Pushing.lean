/-
Pushes. The next index is one past the greatest one, or 0 where there is none or where that is less (`IsNextIndex`), as
an integer: it never wraps, because a catalog that holds the last index gives no next one (`nextIndex_cases`). No index
in use reaches it (`IsNextIndex.lt`), so an accepted push takes no item's place and puts its own behind all others
(`push_last`).

Results:
- `pushAll_appends`: pushes one by one leave all entries where they are, at ascending indices behind them;
- `push_never_overwrites`: every outcome of one push. The last index is looked for before the item is: a full catalog
  refuses every item in the same way, and tells the log nothing.
-/
import Lexicon.Proofs.Catalog.Construction

namespace Lexicon.Catalog

open Validator

/-! ## the next index -/

/-- k is the greater of 0 and one past the greatest index among the keys; it is 0 if none of them is an index -/
def IsNextIndex (ks : List Key) (k : Int64) : Prop :=
  ((∀ i, .index i ∉ ks) ∧ k = 0) ∨ ∃ m, IsGreatestIndex ks m ∧ k.toInt = max 0 (m.toInt + 1)

theorem toInt_succ {m : Int64} (h : m ≠ Int64.maxValue) : (m + 1).toInt = m.toInt + 1 := by
  rw [Ne, ← Int64.toInt_inj, Int64.toInt_maxValue] at h
  have hlt := Int64.toInt_lt m
  have hge := Int64.le_toInt m
  rw [Int64.toInt_add, Int64.toInt_one]
  apply Int.bmod_eq_of_le <;> omega

theorem toInt_clamped {m : Int64} (h : m ≠ Int64.maxValue) :
    (if m + 1 < 0 then 0 else m + 1).toInt = max 0 (m.toInt + 1) := by
  have hsucc := toInt_succ h
  split_ifs with hneg <;> rw [Int64.lt_iff_toInt_lt, hsucc, Int64.toInt_zero] at hneg
  · rw [Int64.toInt_zero]
    omega
  · rw [hsucc]
    omega

theorem IsGreatestIndex.eq_maxValue {ks : List Key} {m : Int64} (h : IsGreatestIndex ks m)
    (hmax : .index Int64.maxValue ∈ ks) : m = Int64.maxValue :=
  Int64.le_antisymm (Int64.le_maxValue m) (h.2 _ hmax)

theorem IsNextIndex.lt {ks : List Key} {i k : Int64} (h : IsNextIndex ks k) (hi : .index i ∈ ks) : i < k := by
  rcases h with ⟨hnone, -⟩ | ⟨m, ⟨-, hle⟩, hk⟩
  · exact absurd hi (hnone i)
  · have him := Int64.le_iff_toInt_le.1 (hle i hi)
    rw [Int64.lt_iff_toInt_lt, hk]
    omega

theorem IsNextIndex.not_mem {ks : List Key} {k : Int64} (h : IsNextIndex ks k) : .index k ∉ ks :=
  fun hk => Int64.lt_irrefl (h.lt hk)

theorem IsNextIndex.unique {ks : List Key} {j k : Int64} (hj : IsNextIndex ks j) (hk : IsNextIndex ks k) : j = k := by
  rcases hj with ⟨hnone, rfl⟩ | ⟨m, hm, hj⟩ <;> rcases hk with ⟨hnone', rfl⟩ | ⟨n, hn, hk⟩
  · rfl
  · exact absurd hn.1 (hnone n)
  · exact absurd hm.1 (hnone' m)
  · obtain rfl : m = n := Option.some.inj ((greatestIndex?_eq_some.2 hm).symm.trans (greatestIndex?_eq_some.2 hn))
    exact Int64.toInt_inj.1 (hj.trans hk.symm)

variable {α : Type}

/-- Either the last index is in use and none is next, or the next one is computed without wrapping. -/
theorem nextIndex_cases (s : Catalog α) :
    (.index Int64.maxValue ∈ s.keys ∧ s.nextIndex = .error ⟨.indexOverflow Int64.maxValue, none⟩) ∨
      .index Int64.maxValue ∉ s.keys ∧ ∃ k, s.nextIndex = .ok k ∧ IsNextIndex s.keys k := by
  unfold nextIndex
  rcases greatestIndex?_spec s.keys with ⟨hnone, hkeys⟩ | ⟨m, hm, hgreatest⟩
  · rw [hnone]
    exact Or.inr ⟨hkeys _, 0, rfl, Or.inl ⟨hkeys, rfl⟩⟩
  · rw [hm]
    by_cases hmax : m = Int64.maxValue
    · subst hmax
      exact Or.inl ⟨hgreatest.1, if_pos rfl⟩
    · refine Or.inr ⟨fun hin => hmax (hgreatest.eq_maxValue hin), _, if_neg hmax, Or.inr ⟨m, hgreatest, ?_⟩⟩
      exact toInt_clamped hmax

/-! ## one push -/

variable [Typed α]

theorem push_full {s : Catalog α} (h : .index Int64.maxValue ∈ s.keys) (x : α) :
    s.push x = ⟨s, .fail ⟨.indexOverflow Int64.maxValue, none⟩⟩ := by
  rcases nextIndex_cases s with ⟨-, hnext⟩ | ⟨hnot, -⟩
  · rw [push_eq, hnext]
  · exact absurd h hnot

/-- A push at the next index is refused with it, or puts the item behind all others. -/
theorem push_last {s : Catalog α} {k : Int64} (hnext : s.nextIndex = .ok k) (hk : IsNextIndex s.keys k) (x : α) :
    s.push x =
      if s.validator.accepts x then ⟨⟨s.entries ++ [(.index k, x)], s.validator⟩, .done (.index k)⟩
      else ⟨s, rejection (.index k) x⟩ := by
  rw [push_eq, hnext, ← Entries.put_of_not_mem hk.not_mem]

theorem push_ok {s t : Catalog α} {x : α} (h : (s.push x).after.result = .ok t) :
    ∃ k, IsNextIndex s.keys k ∧ t = ⟨s.entries ++ [(.index k, x)], s.validator⟩ := by
  rcases nextIndex_cases s with ⟨hfull, -⟩ | ⟨-, k, hnext, hk⟩
  · rw [push_full hfull] at h
    cases h
  · rw [push_last hnext hk] at h
    split_ifs at h
    · exact ⟨k, hk, (Except.ok.inj h).symm⟩
    · cases h

/-! ## pushes one by one -/

/-- **Pushes keep what was there.** Pushes that all succeed leave the entries as they were and append the items at
indices that ascend and that no index there before reaches. -/
theorem pushAll_appends {s t : Catalog α} {xs : List α} (h : (pushAll s xs).result = .ok t) :
    ∃ ks : List Int64, ks.length = xs.length ∧ t = ⟨s.entries ++ (ks.map Key.index).zip xs, s.validator⟩ ∧
      ks.Pairwise (· < ·) ∧ ∀ k ∈ ks, ∀ i, .index i ∈ s.keys → i < k := by
  induction xs generalizing s with
  | nil =>
    obtain rfl : s = t := Except.ok.inj h
    exact ⟨[], rfl, by simp, List.Pairwise.nil, by simp⟩
  | cons x xs ih =>
    obtain ⟨u, hu, hlater⟩ := Attempt.andThen_eq_ok.1 h
    obtain ⟨k, hk, rfl⟩ := push_ok hu
    obtain ⟨ks, hlength, rfl, hascend, hbehind⟩ := ih hlater
    -- the keys of the second catalog are those of the first and the index of x
    have hkeys : keys ⟨s.entries ++ [(.index k, x)], s.validator⟩ = s.keys ++ [.index k] := List.map_append
    have hfirst : ∀ j ∈ ks, k < j := fun j hj => hbehind j hj k (by rw [hkeys]; simp)
    refine ⟨k :: ks, by simp [hlength], by simp, List.pairwise_cons.2 ⟨hfirst, hascend⟩, ?_⟩
    intro j hj i hi
    rcases List.mem_cons.1 hj with rfl | hj
    · exact hk.lt hi
    · exact hbehind j hj i (by rw [hkeys]; exact List.mem_append_left _ hi)

/-- **A push never overwrites and never wraps.** If the last index is in use, every push is refused, without a key and
without a look at the item. If not, there is a next index, greater than every index in use: an item that is not accepted
is refused with it, and one that is accepted is appended at it, behind all entries, which stay. -/
theorem push_never_overwrites (s : Catalog α) (x : α) :
    (.index Int64.maxValue ∈ s.keys → s.push x = ⟨s, .fail ⟨.indexOverflow Int64.maxValue, none⟩⟩) ∧
      (.index Int64.maxValue ∉ s.keys →
        ∃ k, IsNextIndex s.keys k ∧ .index k ∉ s.keys ∧ (∀ i, .index i ∈ s.keys → i < k) ∧
          (s.validator.accepts x = false → (s.push x).catalog = s ∧
            (s.push x).outcome.result = .error ⟨.invalidItem (typeName x), some (.index k)⟩) ∧
          (s.validator.accepts x = true →
            s.push x = ⟨⟨s.entries ++ [(.index k, x)], s.validator⟩, .done (.index k)⟩)) := by
  refine ⟨fun hfull => push_full hfull x, fun hroom => ?_⟩
  rcases nextIndex_cases s with ⟨hfull, -⟩ | ⟨-, k, hnext, hk⟩
  · exact absurd hfull hroom
  · refine ⟨k, hk, hk.not_mem, fun i => hk.lt, fun hx => ?_, fun hx => ?_⟩
    · rw [push_last hnext hk, if_neg (by simp [hx])]
      exact ⟨rfl, rfl⟩
    · rw [push_last hnext hk, if_pos hx]

/-- numbers at the least index and under the name of an index -/
def depths : Catalog Scalar :=
  ⟨[(.index Int64.minValue, .integer .i32 1), (.name "7", .integer .i32 2)], .ofType ⟨"i32"⟩⟩

/-- a number at the last index, and one behind it at a lesser index -/
def heights : Catalog Scalar :=
  ⟨[(.index Int64.maxValue, .integer .i32 1), (.index (-1), .integer .i32 2)], .ofType ⟨"i32"⟩⟩

theorem depths_heights_pushed :
    (depths.push (.integer .i32 3)).catalog.keys = [.index Int64.minValue, .name "7", .index 0] ∧
      (depths.push (.bool true)).outcome.result = .error ⟨.invalidItem "bool", some (.index 0)⟩ ∧
      heights.push (.bool true) = ⟨heights, .fail ⟨.indexOverflow Int64.maxValue, none⟩⟩ := by
  have hgreatest : IsGreatestIndex depths.keys Int64.minValue := greatestIndex?_eq_some.1 rfl
  have hzero : IsNextIndex depths.keys 0 := Or.inr ⟨_, hgreatest, by decide⟩
  have hroom : .index Int64.maxValue ∉ depths.keys := by decide
  obtain ⟨i, hi, -, -, -, haccepted⟩ := (push_never_overwrites depths (.integer .i32 3)).2 hroom
  obtain ⟨j, hj, -, -, hrefused, -⟩ := (push_never_overwrites depths (.bool true)).2 hroom
  obtain rfl : i = 0 := hi.unique hzero
  obtain rfl : j = 0 := hj.unique hzero
  refine ⟨?_, (hrefused rfl).2, (push_never_overwrites heights (.bool true)).1 (by decide)⟩
  rw [haccepted rfl]
  rfl

end Lexicon.Catalog
