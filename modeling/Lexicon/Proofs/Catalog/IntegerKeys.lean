/-
Keys from integers. Keys are made from signed and unsigned integers of several widths (`KeyInteger`), each by a
conversion of its own: one extends the sign, others take an unsigned integer as it is, and those of 64 bits without a
sign are checked first. Whichever it is, it gives the index of the same value or fails because there is none
(`KeyInteger.key_cases`). So integers of two types have one key exactly if they are the same integer, and what is stored
under one of them is reached through the other exactly then (`reaches_of_keys`); updates through other integers and
through names, any number of them, pass it by (`at?_updateAll_of_ne`).

Results: `integers_never_alias`.
-/
import Mathlib.Algebra.Group.Int.Defs
import Lexicon.Proofs.Catalog.Commuting
import Lexicon.Proofs.Catalog.Rebuilding

namespace Lexicon

/-! ## conversions -/

/-- an integer of one of the types that keys are made from -/
inductive KeyInteger where
  | i32 (n : Int32)
  | i64 (n : Int64)
  | u32 (n : UInt32)
  | u64 (n : UInt64)
  | usize (n : UInt64)
  deriving DecidableEq

namespace KeyInteger

/-- the integer, whatever its type -/
def value : KeyInteger → Int
  | i32 n => n.toInt
  | i64 n => n.toInt
  | u32 n => n.toNat
  | u64 n => n.toNat
  | usize n => n.toNat

/-- the key of the integer -/
def key : KeyInteger → Except Failure Key
  | i32 n => .ok (.ofInt32 n)
  | i64 n => .ok (.ofInt64 n)
  | u32 n => .ok (.ofUInt32 n)
  | u64 n => Key.ofUInt64 n
  | usize n => Key.ofUInt64 n

end KeyInteger

namespace Key

/-- the key is the index of an integer -/
def IsInteger (k : Key) (n : Int) : Prop := ∃ i : Int64, k = .index i ∧ i.toInt = n

variable {j k : Key} {m n : Int}

theorem IsInteger.le (h : k.IsInteger n) : n ≤ 2 ^ 63 - 1 := by
  obtain ⟨i, -, rfl⟩ := h
  have hlt := i.toInt_lt
  omega

theorem IsInteger.eq_iff (hj : j.IsInteger m) (hk : k.IsInteger n) : j = k ↔ m = n := by
  obtain ⟨i, rfl, rfl⟩ := hj
  obtain ⟨i', rfl, rfl⟩ := hk
  rw [Key.index.injEq, Int64.toInt_inj]

theorem IsInteger.text_eq (h : k.IsInteger n) : k.text = n.repr := by
  obtain ⟨i, rfl, rfl⟩ := h
  rfl

theorem IsInteger.ne_name (h : k.IsInteger n) (s : String) : k ≠ .name s := by
  obtain ⟨i, rfl, -⟩ := h
  exact nofun

theorem isInteger_ofNat {n : Nat} (h : n < 2 ^ 63) : IsInteger (.index (Int64.ofNat n)) n :=
  ⟨_, rfl, Int64.toInt_ofNat_of_lt h⟩

/-- The checked conversion gives the index of the same value, or names the integer that has none. -/
theorem ofUInt64_cases (n : UInt64) :
    (∃ k, ofUInt64 n = .ok k ∧ k.IsInteger n.toNat) ∨
      2 ^ 63 - 1 < (n.toNat : Int) ∧ ofUInt64 n = .error ⟨.indexOutOfRange (n.toNat : Int).repr, none⟩ := by
  have hmax : Int64.maxValue.toInt.toNat = 2 ^ 63 - 1 := rfl
  unfold ofUInt64
  rw [hmax]
  split_ifs with h
  · exact Or.inl ⟨_, rfl, isInteger_ofNat (by omega)⟩
  · exact Or.inr ⟨by omega, rfl⟩

end Key

namespace KeyInteger

/-- **A conversion keeps the value**, or fails for an integer past the greatest index. -/
theorem key_cases (a : KeyInteger) :
    (∃ k, a.key = .ok k ∧ k.IsInteger a.value) ∨
      2 ^ 63 - 1 < a.value ∧ a.key = .error ⟨.indexOutOfRange a.value.repr, none⟩ := by
  cases a with
  | i32 n => exact Or.inl ⟨_, rfl, _, rfl, Int32.toInt_toInt64 n⟩
  | i64 n => exact Or.inl ⟨_, rfl, _, rfl, rfl⟩
  | u32 n =>
    have hlt := n.toNat_lt
    exact Or.inl ⟨_, rfl, Key.isInteger_ofNat (by omega)⟩
  | u64 n => exact Key.ofUInt64_cases n
  | usize n => exact Key.ofUInt64_cases n

variable {a b : KeyInteger} {j k : Key}

theorem isInteger_of_key (h : a.key = .ok k) : k.IsInteger a.value := by
  rcases a.key_cases with ⟨k', hk', hinteger⟩ | ⟨-, herror⟩
  · obtain rfl := Except.ok.inj (h.symm.trans hk')
    exact hinteger
  · cases h.symm.trans herror

theorem key_eq_error {f : Failure} :
    a.key = .error f ↔ 2 ^ 63 - 1 < a.value ∧ f = ⟨.indexOutOfRange a.value.repr, none⟩ := by
  rcases a.key_cases with ⟨k, hk, hinteger⟩ | ⟨hlt, herror⟩
  · have hle := hinteger.le
    rw [hk]
    exact iff_of_false nofun fun h => by omega
  · rw [herror, Except.error.injEq, eq_comm]
    exact (and_iff_right hlt).symm

theorem key_eq_iff (hj : a.key = .ok j) (hk : b.key = .ok k) : j = k ↔ a.value = b.value :=
  (isInteger_of_key hj).eq_iff (isInteger_of_key hk)

/-- The key of a position, made without a check, is that of the checked conversion. -/
theorem key_position {n : Nat} (h : n ≤ Catalog.maxItems) : (usize (UInt64.ofNat n)).key = .ok (.position n) := by
  rw [Catalog.maxItems] at h
  have hlt : n < 2 ^ 64 := by omega
  have hn : (UInt64.ofNat n).toNat = n := UInt64.toNat_ofNat_of_lt hlt
  have hmax : Int64.maxValue.toInt.toNat = 2 ^ 63 - 1 := rfl
  rw [key, Key.ofUInt64, hn, hmax, if_pos h]
  rfl

end KeyInteger

namespace Catalog

variable {α : Type}

/-! ## entries reached through keys -/

theorem get_eq_error {s : Catalog α} {k : Key} :
    s.get k = .error ⟨.keyNotFound k, none⟩ ↔ s.entries.at? k = none := by
  unfold get
  cases s.entries.at? k with
  | none => exact iff_of_true rfl rfl
  | some x => exact iff_of_false nofun nofun

variable [Typed α] {s : Catalog α} {j k : Key}

/-- Updates at other keys leave a key as it was, any number of them. -/
theorem at?_updateAll_of_ne (h : s.keys.Nodup) {us : List (Update α)} (hus : ∀ u ∈ us, u.key ≠ k) :
    (s.updateAll us).1.entries.at? k = s.entries.at? k := by
  induction us generalizing s with
  | nil => rfl
  | cons u us ih =>
    obtain ⟨hu, hlater⟩ := List.forall_mem_cons.1 hus
    rw [updateAll, ih (nodup_update h u) hlater, at?_update_of_ne h hu]

/-- what is stored under the key j is found, overwritten and removed through k exactly if it is the same -/
structure Reaches (s : Catalog α) (j k : Key) (same : Prop) : Prop where
  found : ∀ x, s.validator.accepts x = true → s.get k ≠ .ok x → ((s.insert j x).catalog.get k = .ok x ↔ same)
  overwritten : ∀ x y, s.get j = .ok x → s.validator.accepts y = true → x ≠ y →
    ((s.insert k y).catalog.get j = .ok y ↔ same)
  removed : ∀ x, s.get j = .ok x → ((s.remove k).catalog.get j = .error ⟨.keyNotFound j, none⟩ ↔ same)
  answered : same → ∀ x y, s.get j = .ok x → s.validator.accepts y = true →
    s.get k = .ok x ∧ (s.insert k y).outcome = .done (some x) ∧ (s.remove k).outcome = .done (some x)

/-- One key reaches what is stored under another exactly if they are the same key. -/
theorem reaches_of_keys (h : s.keys.Nodup) {same : Prop} (hsame : j = k ↔ same) : s.Reaches j k same := by
  rw [← propext hsame]
  refine ⟨fun x hx hk => ?_, fun x y hj hy hne => ?_, fun x hj => ?_, ?_⟩
  · rw [Ne, get_eq_ok] at hk
    rw [insert_eq, if_pos hx, get_eq_ok, Entries.at?_put]
    simp [hk]
  · rw [get_eq_ok] at hj
    rw [insert_eq, if_pos hy, get_eq_ok, Entries.at?_put, hj]
    simp [hne, eq_comm]
  · rw [get_eq_ok] at hj
    rw [remove, get_eq_error, Entries.at?_erase k j h, hj]
    simp [eq_comm]
  · rintro rfl x y hj hy
    refine ⟨hj, ?_, ?_⟩
    · rw [insert_eq, if_pos hy, get_eq_ok.1 hj]
    · rw [remove, get_eq_ok.1 hj]

/-! ## keys by position -/

/-- the keys are the indices of 0 up to n, in order, and no two of them are the same -/
def Counts (s : Catalog α) (n : Nat) : Prop := List.Forall₂ Key.IsIndex s.keys (List.range n) ∧ s.keys.Nodup

omit [Typed α] in
theorem counts_numbered {xs : List α} (h : xs.length ≤ maxItems) (v : Validator α) :
    Counts ⟨numbered xs, v⟩ xs.length := by
  have hsize := size_numbered xs v
  exact ⟨hsize ▸ dense_numbered h v, keys_numbered_nodup (Nat.le_trans h maxItems_le_positionLimit)⟩

/-! ## integers and names -/

/-- **Integers of all types have lossless keys, and none is taken for another or for a name.** A conversion fails
exactly past the greatest index, with the integer in digits and without a key, and otherwise gives the index of the same
value; so two integers of any types have one key exactly if they are equal. No name is the key of an integer, even if it
reads the same. In every catalog that can be made, what is stored under an integer is found, overwritten and removed
through another exactly if they are equal, and stays as it is in any run of updates that go through other integers or
through names. Items keyed by position, as many as a list can have, have the indices from 0 on for keys, which are all
distinct; they are the keys that the positions have as integers. -/
theorem integers_never_alias (α : Type) [Typed α] :
    (∀ a : KeyInteger, ((∃ f, a.key = .error f) ↔ 2 ^ 63 - 1 < a.value) ∧
        (∀ f, a.key = .error f → f = ⟨.indexOutOfRange a.value.repr, none⟩) ∧
        ∀ k, a.key = .ok k → k.IsInteger a.value ∧ k.text = a.value.repr ∧ ∀ name, k ≠ .name name) ∧
      (∀ (a b : KeyInteger) j k, a.key = .ok j → b.key = .ok k → (j = k ↔ a.value = b.value)) ∧
      (∀ (C : Copying α) s, Made C s →
        (∀ (a b : KeyInteger) j k, a.key = .ok j → b.key = .ok k → s.Reaches j k (a.value = b.value)) ∧
          ∀ (a : KeyInteger) j us, a.key = .ok j →
            (∀ u ∈ us, ∀ b : KeyInteger, b.key = .ok u.key → b.value ≠ a.value) →
              (s.updateAll us).1.get j = s.get j) ∧
      (∀ n, n ≤ maxItems → (KeyInteger.usize (UInt64.ofNat n)).key = .ok (.position n)) ∧
      (∀ xs : List α, xs.length ≤ maxItems → (ofItems xs).Counts xs.length ∧
        ∀ v s, (withValidator xs v).result = .ok s → s.Counts xs.length) ∧
      ∀ (s : Catalog α) p, s.size ≤ maxItems → (s.filter p).Counts (s.items.filter p).length := by
  refine ⟨fun a => ⟨?_, fun f hf => (KeyInteger.key_eq_error.1 hf).2, fun k hk => ?_⟩,
    fun _ _ _ _ => KeyInteger.key_eq_iff, fun C s hs => ⟨fun a b j k hj hk => ?_, fun a j us hj hus => ?_⟩,
    fun _ => KeyInteger.key_position, fun xs hxs => ⟨?_, fun v s hs => ?_⟩, fun s p hs => ?_⟩
  · simp only [KeyInteger.key_eq_error, exists_and_left, exists_eq, and_true]
  · have hinteger := KeyInteger.isInteger_of_key hk
    exact ⟨hinteger, hinteger.text_eq, hinteger.ne_name⟩
  · exact reaches_of_keys hs.distinct (KeyInteger.key_eq_iff hj hk)
  · -- an update at the key of the integer would go through the integer itself
    have hothers : ∀ u ∈ us, u.key ≠ j := fun u hu heq => hus u hu a (heq ▸ hj) rfl
    rw [get, get, at?_updateAll_of_ne hs.distinct hothers]
  · rw [ofItems, collect_numbered hxs]
    exact counts_numbered hxs _
  · obtain ⟨-, rfl⟩ := (withValidator_eq_ok hxs).1 hs
    exact counts_numbered hxs v
  · rw [filter_eq hs]
    exact counts_numbered (Nat.le_trans (s.length_filter_items_le p) hs) _

/-- the first integer past the greatest index -/
def pastIndices : KeyInteger := .u64 9223372036854775808

/-- a number under a negative index, another one under a name that reads the same -/
def lookalikes : Catalog Scalar :=
  ⟨[(.index (-1), .integer .i32 7), (.name "-1", .integer .i32 8)], .ofType ⟨"i32"⟩⟩

theorem lookalikes_apart :
    lookalikes.Made (.values Scalar) ∧
      pastIndices.key = .error ⟨.indexOutOfRange "9223372036854775808", none⟩ ∧
      KeyInteger.key (.usize (UInt64.ofNat maxItems)) = .ok (.position maxItems) ∧
      KeyInteger.key (.i32 (-1)) ≠ KeyInteger.key (.u32 4294967295) ∧
      Key.text (.index (-1)) = "-1" ∧ (.index (-1) : Key) ≠ .name "-1" ∧
      (lookalikes.insert (.index (-1)) (.integer .i32 9)).outcome = .done (some (.integer .i32 7)) ∧
      (lookalikes.remove (.index 4294967295)).catalog.get (.index (-1)) ≠ .error ⟨.keyNotFound (.index (-1)), none⟩ ∧
      (lookalikes.updateAll [.remove (.name "-1"), .insert (.index 4294967295) (.integer .i32 9)]).1.get (.index (-1)) =
        .ok (.integer .i32 7) ∧
      (lookalikes.filter fun x => x == .integer .i32 8).Counts 1 := by
  have hentries : (ofEntries lookalikes.entries lookalikes.validator).result = .ok lookalikes := rfl
  have hmade : lookalikes.Made (.values Scalar) := .ofEntries hentries
  have hnegative : KeyInteger.key (.i32 (-1)) = .ok (.index (-1)) := by decide
  have hunsigned : KeyInteger.key (.u32 4294967295) = .ok (.index 4294967295) := by decide
  have hdigits : pastIndices.value.repr = "9223372036854775808" := by decide +kernel
  obtain ⟨hconversions, hequal, hcatalogs, hpositions, -, hfilter⟩ := integers_never_alias Scalar
  obtain ⟨hreaches, hpassed⟩ := hcatalogs (.values Scalar) lookalikes hmade
  obtain ⟨-, htext, hname⟩ := (hconversions (.i32 (-1))).2.2 _ hnegative
  obtain ⟨f, hf⟩ := (hconversions pastIndices).1.2 (by decide +kernel)
  have hsame := hreaches (.i32 (-1)) (.i64 (-1)) _ _ hnegative rfl
  have hother := hreaches (.i32 (-1)) (.u32 4294967295) _ _ hnegative hunsigned
  refine ⟨hmade, ?_, hpositions maxItems (Nat.le_refl _), fun h => ?_, htext, hname "-1", ?_, ?_, ?_, ?_⟩
  · rw [hf, (hconversions pastIndices).2.1 f hf, hdigits]
  · rw [hnegative] at h
    cases (hequal (.i32 (-1)) (.u32 4294967295) _ _ hnegative h.symm).1 rfl
  · exact (hsame.answered rfl (.integer .i32 7) (.integer .i32 9) rfl rfl).2.1
  · exact fun hnone => absurd ((hother.removed (.integer .i32 7) rfl).1 hnone) (by decide)
  · refine (hpassed (.i32 (-1)) _ _ hnegative fun u hu b hb => ?_).trans rfl
    rcases List.mem_pair.1 hu with rfl | rfl
    · exact absurd rfl (((hconversions b).2.2 _ hb).2.2 "-1")
    · intro heq
      cases (hequal b (.i32 (-1)) _ _ hb hnegative).2 heq
  · exact hfilter lookalikes _ (by decide)

end Catalog

end Lexicon
