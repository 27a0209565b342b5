/-
Literals read back. `digits` spells a number digit by digit, the last one being its remainder by 16 (`digits_of_ge`), so
a reader inside a code point gathers the number from the left (`readFrom_digits`); a code point has at most six digits.
With that, each escaped character is read as itself and leaves the reader outside of escapes (`readFrom_escape`).

Result: `read?_quote`, a quoted text is read back up to its closing quote, whatever follows.
-/
import Mathlib.Algebra.Group.Nat.Defs
import Mathlib.Tactic.Common
import Lexicon.Text.Literal

namespace Lexicon.Hex

/-! ## digits -/

theorem digitsOnto_eq (fuel n : Nat) (acc : List Char) : digitsOnto fuel n acc = digitsOnto fuel n [] ++ acc := by
  induction fuel generalizing n acc with
  | zero => rfl
  | succ fuel ih =>
    simp only [digitsOnto]
    split_ifs
    · rfl
    · rw [ih (n / 16) (digit (n % 16) :: acc), ih (n / 16) [digit (n % 16)], List.append_assoc]
      rfl

theorem digitsOnto_fuel {fuel fuel' n : Nat} (h : n < fuel) (h' : n < fuel') :
    digitsOnto fuel n [] = digitsOnto fuel' n [] := by
  induction fuel generalizing fuel' n with
  | zero => omega
  | succ fuel ih =>
    obtain ⟨fuel', rfl⟩ : ∃ m, fuel' = m + 1 := ⟨fuel' - 1, by omega⟩
    simp only [digitsOnto]
    split_ifs with hn
    · rfl
    · rw [digitsOnto_eq fuel, digitsOnto_eq fuel', ih (by omega : n / 16 < fuel) (by omega : n / 16 < fuel')]

theorem digits_of_lt {n : Nat} (h : n < 16) : digits n = [digit n] := by
  simp [digits, digitsOnto, h]

theorem digits_of_ge {n : Nat} (h : 16 ≤ n) : digits n = digits (n / 16) ++ [digit (n % 16)] := by
  have hn : ¬ n < 16 := by omega
  simp only [digits, digitsOnto, hn, if_false]
  rw [digitsOnto_eq, digitsOnto_fuel (by omega : n / 16 < n) (by omega : n / 16 < n / 16 + 1)]
  rfl

theorem length_digits_pos (n : Nat) : 0 < (digits n).length := by
  by_cases h : n < 16
  · simp [digits_of_lt h]
  · simp [digits_of_ge (Nat.le_of_not_lt h)]

theorem length_digits_le {n : Nat} (k : Nat) (h : n < 16 ^ (k + 1)) : (digits n).length ≤ k + 1 := by
  induction k generalizing n with
  | zero => simp [digits_of_lt (by simpa using h)]
  | succ k ih =>
    by_cases hn : n < 16
    · simp [digits_of_lt hn]
    · have hdiv : n / 16 < 16 ^ (k + 1) := by
        rw [Nat.div_lt_iff_lt_mul (by decide)]
        simpa [Nat.pow_succ] using h
      have := ih hdiv
      simp only [digits_of_ge (Nat.le_of_not_lt hn), List.length_append, List.length_singleton]
      omega

end Lexicon.Hex

namespace Lexicon.Literal

open Lexicon.Hex

/-! ## one character -/

theorem digit_ne_brace {n : Nat} (h : n < 16) : digit n ≠ '}' := by
  revert n
  decide

theorem readFrom_digit {n : Nat} (h : n < 16) (count value : Nat) (rest : List Char) :
    readFrom (.digits count value) (digit n :: rest) = readFrom (.digits (count + 1) (16 * value + n)) rest := by
  simp [readFrom, digit_ne_brace h, digitValue?_digit h]

/-- A reader inside a code point takes all digits of a number in. -/
theorem readFrom_digits (n count value : Nat) (rest : List Char) :
    readFrom (.digits count value) (digits n ++ rest) =
      readFrom (.digits (count + (digits n).length) (16 ^ (digits n).length * value + n)) rest := by
  induction n using Nat.strongRecOn generalizing rest with
  | ind n ih =>
    by_cases h : n < 16
    · simp [digits_of_lt h, readFrom_digit h]
    · have hn := Nat.le_of_not_lt h
      have hlt : n / 16 < n := by omega
      have hvalue (a : Nat) : 16 * (a + n / 16) + n % 16 = 16 * a + n := by omega
      simp only [digits_of_ge hn, List.append_assoc, List.singleton_append]
      rw [ih _ hlt, readFrom_digit (Nat.mod_lt n (by decide)), hvalue]
      simp [Nat.pow_succ, Nat.mul_comm, Nat.mul_left_comm, Nat.add_assoc]

theorem codePoint?_digits (c : Char) : codePoint? (digits c.toNat).length c.toNat = some c := by
  have hvalid : c.toNat.isValidChar := c.valid
  have hlt : c.toNat < 16 ^ 6 := by
    rcases hvalid with h | ⟨-, h⟩ <;> exact Nat.lt_trans h (by decide)
  have hpos := length_digits_pos c.toNat
  have hle := length_digits_le 5 hlt
  unfold codePoint?
  rw [if_pos ⟨hpos, hle, hvalid⟩, Char.ofNat_toNat]

/-- An escaped character is read as itself. -/
theorem readFrom_escape (c : Char) (rest : List Char) :
    readFrom .outside (escape c ++ rest) = put c (readFrom .outside rest) := by
  unfold escape
  split_ifs with ht hr hn hq hp
  · subst ht; rfl
  · subst hr; rfl
  · subst hn; rfl
  · rcases hq with rfl | rfl | rfl <;> rfl
  · have hquote : c ≠ '"' := fun h => hq (Or.inr (Or.inl h))
    have hslash : c ≠ '\\' := fun h => hq (Or.inr (Or.inr h))
    simp [readFrom, hquote, hslash]
  · have hread := readFrom_digits c.toNat 0 0 ('}' :: rest)
    rw [Nat.mul_zero, Nat.zero_add, Nat.zero_add] at hread
    simp only [List.cons_append, List.nil_append, List.append_assoc]
    change readFrom (.digits 0 0) (digits c.toNat ++ '}' :: rest) = _
    rw [hread]
    simp [readFrom, codePoint?_digits]

/-! ## texts -/

theorem readFrom_encode (text rest : List Char) :
    readFrom .outside (encode text ++ '"' :: rest) = some (text, rest) := by
  induction text with
  | nil => rfl
  | cons c cs ih =>
    simp only [encode, List.flatMap_cons, List.append_assoc] at ih ⊢
    rw [readFrom_escape, ih]
    rfl

/-- **Literals read back**, up to the quote that closes them. -/
theorem read?_quote (text rest : List Char) : read? (quote text ++ rest) = some (text, rest) := by
  simp only [quote, List.cons_append, List.append_assoc, List.nil_append]
  exact readFrom_encode text rest

end Lexicon.Literal
