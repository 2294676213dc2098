import MatchTree.Number.Decimal

/-!
Decimal digits of a number, and the number that digits spell.
-/

set_option autoImplicit false
namespace MatchTree

/-- Reading digits is what the library calls it; its lemmas about `Nat.toDigits` apply. -/
theorem ofDigits_eq (digits : List Char) : ofDigits digits = Nat.ofDigitChars 10 digits 0 := by
  simp only [ofDigits, digitsFrom, digitValue, Nat.ofDigitChars_eq_foldl]

theorem ofDigits_toDigits (n : Nat) : ofDigits (Nat.toDigits 10 n) = n := by
  rw [ofDigits_eq, Nat.ofDigitChars_ten_toDigits]

theorem ofDigits_append (front back : List Char) :
    ofDigits (front ++ back) = ofDigits front * 10 ^ back.length + ofDigits back := by
  simp only [ofDigits_eq, Nat.ofDigitChars_append]
  rw [Nat.ofDigitChars_eq_ofDigitChars_zero, Nat.mul_comm]

theorem le_digitsFrom (start : Nat) (digits : List Char) : start ≤ digitsFrom start digits := by
  induction digits generalizing start with
  | nil => exact Nat.le_refl start
  | cons c rest ih =>
    have step : start ≤ 10 * start + digitValue c := by omega
    exact Nat.le_trans step (ih _)

@[simp] theorem ofDigits_replicate_zero (n : Nat) : ofDigits (List.replicate n '0') = 0 := by
  rw [ofDigits_eq, Nat.ofDigitChars_replicate_zero, Nat.mul_zero]

theorem isDigit_of_mem_toDigits {n : Nat} {c : Char} (member : c ∈ Nat.toDigits 10 n) :
    c.isDigit = true :=
  Nat.isDigit_of_mem_toDigits (by decide) (Nat.le_refl 10) member

theorem all_isDigit_toDigits (n : Nat) : (Nat.toDigits 10 n).all Char.isDigit = true :=
  List.all_eq_true.mpr fun _ => isDigit_of_mem_toDigits

/-- The digits of a positive number do not begin with a zero. -/
theorem toDigits_head {n : Nat} (positive : 0 < n) :
    ∃ c rest, Nat.toDigits 10 n = c :: rest ∧ c ≠ '0' := by
  induction n using Nat.strongRecOn with
  | _ n ih =>
    by_cases small : n < 10
    · refine ⟨n.digitChar, [], Nat.toDigits_of_lt_base small, fun zero => ?_⟩
      exact absurd (Nat.digitChar_eq_zero.mp zero) (by omega)
    · obtain ⟨c, rest, shape, nonzero⟩ := ih (n / 10) (by omega) (by omega)
      refine ⟨c, rest ++ [(n % 10).digitChar], ?_, nonzero⟩
      rw [Nat.toDigits_of_base_le (by decide) (by omega), shape, List.cons_append]

theorem digitCount_le_iff {n k : Nat} : digitCount n ≤ k ↔ n < 10 ^ k := by
  rw [digitCount]
  split
  case isTrue zero =>
    rw [zero]
    exact iff_of_true (Nat.zero_le k) (Nat.pow_pos (by decide))
  case isFalse nonzero =>
    cases k with
    | zero =>
      have := @Nat.length_toDigits_pos 10 n
      rw [Nat.pow_zero]
      omega
    | succ k => exact Nat.length_toDigits_le_iff (by decide) k.succ_pos

theorem digitCount_mul_pow {n : Nat} (nonzero : n ≠ 0) (k : Nat) :
    digitCount (n * 10 ^ k) = digitCount n + k := by
  have positive : 0 < 10 ^ k := Nat.pow_pos (by decide)
  have shifted (m : Nat) : digitCount (n * 10 ^ k) ≤ m + k ↔ digitCount n ≤ m := by
    rw [digitCount_le_iff, digitCount_le_iff, Nat.pow_add, Nat.mul_lt_mul_right positive]
  apply Nat.le_antisymm
  · exact (shifted _).mpr (Nat.le_refl _)
  · -- the product has `k` digits at least, so its count has the form `m + k`
    have large : k ≤ digitCount (n * 10 ^ k) := by
      refine Nat.le_of_lt (Nat.lt_of_not_le fun few => ?_)
      have small := digitCount_le_iff.mp few
      exact Nat.not_lt.mpr (Nat.le_mul_of_pos_left (10 ^ k) (by omega)) small
    obtain ⟨m, count⟩ := Nat.exists_eq_add_of_le' large
    have := (shifted m).mp (Nat.le_of_eq count)
    omega

end MatchTree
