import MatchTree.Number.Shortest
import MatchTree.Proofs.Number.Digits

/-!
Rounding a decimal depends on the number alone, not on how it is split into a coefficient and a
power of ten, and a double is what its decimals are rounded to.
-/

set_option autoImplicit false
namespace MatchTree

/-- A coefficient that is one digit too long goes over to the next exponent. -/
theorem two_pow_carry (k : Nat) : 2 ^ 52 * 2 ^ (k + 1) = 2 ^ 53 * 2 ^ k := by
  rw [← Nat.pow_add, ← Nat.pow_add, Nat.add_comm k, ← Nat.add_assoc]

theorem roundHalfEven_mul (numerator denominator : Nat) {k : Nat} (positive : 0 < k) :
    roundHalfEven (numerator * k) (denominator * k) = roundHalfEven numerator denominator := by
  have less : 2 * (numerator % denominator * k) < denominator * k ↔
      2 * (numerator % denominator) < denominator := by
    rw [← Nat.mul_assoc, Nat.mul_lt_mul_right positive]
  have same : 2 * (numerator % denominator * k) = denominator * k ↔
      2 * (numerator % denominator) = denominator := by
    rw [← Nat.mul_assoc, Nat.mul_right_cancel_iff positive]
  simp only [roundHalfEven, Nat.mul_div_mul_right _ _ positive, Nat.mul_mod_mul_right, less, same]

namespace Double

theorem ofRatio_mul (negative : Bool) (numerator denominator : Nat) {k : Nat}
    (positive : 0 < k) :
    ofRatio negative (numerator * k) (denominator * k) = ofRatio negative numerator denominator := by
  simp only [ofRatio, Nat.mul_right_comm _ k, Nat.mul_div_mul_right _ _ positive,
    roundHalfEven_mul _ _ positive]

/-- Two fractions of one number are rounded alike. -/
theorem ofRatio_congr (negative : Bool) {a b c d : Nat} (left : 0 < b) (right : 0 < d)
    (same : a * d = c * b) : ofRatio negative a b = ofRatio negative c d := by
  rw [← ofRatio_mul negative a b right, ← ofRatio_mul negative c d left, same, Nat.mul_comm b d]

end Double

namespace Finite

/-- The normal form of a number is found again from its magnitude. -/
theorem exponent_of_magnitude (x : Finite) : x.magnitude.log2 - 52 = x.exponent := by
  obtain ⟨negative, coefficient, exponent, small, _, normal⟩ := x
  simp only [magnitude]
  obtain rfl | large := normal
  · rw [Nat.pow_zero, Nat.mul_one]
    by_cases zero : coefficient = 0
    · simp [zero]
    · have := (Nat.log2_lt zero).mpr small
      omega
  · have positive : coefficient * 2 ^ exponent ≠ 0 :=
      Nat.ne_of_gt (Nat.mul_pos (by omega) (Nat.pow_pos (by decide)))
    have below : coefficient * 2 ^ exponent < 2 ^ (53 + exponent) := by
      rw [Nat.pow_add]
      exact Nat.mul_lt_mul_of_pos_right small (Nat.pow_pos (by decide))
    have above : 2 ^ (52 + exponent) ≤ coefficient * 2 ^ exponent := by
      rw [Nat.pow_add]
      exact Nat.mul_le_mul_right _ large
    have := (Nat.log2_lt positive).mpr below
    have := (Nat.le_log2 positive).mpr above
    omega

theorem ofParts_self (x : Finite) :
    Double.ofParts x.negative x.coefficient x.exponent = .finite x := by
  rw [Double.ofParts, dif_pos ⟨x.coefficient_lt, x.exponent_le, x.normal⟩]

/-- A fraction that is exactly a double is rounded to it. -/
theorem ofRatio_magnitude (x : Finite) :
    Double.ofRatio x.negative x.magnitude (2 ^ 1074) = .finite x := by
  -- the argument is one for every scale, and so large a power is not looked at
  have scaled (k : Nat) (positive : 0 < k) :
      Double.ofParts x.negative
        (roundHalfEven (x.magnitude * k) (k * 2 ^ ((x.magnitude * k / k).log2 - 52)))
        ((x.magnitude * k / k).log2 - 52) = .finite x := by
    have rounded := roundHalfEven_mul x.coefficient 1 (Nat.two_pow_pos x.exponent)
    rw [Nat.one_mul, roundHalfEven_one] at rounded
    rw [Nat.mul_div_cancel _ positive, exponent_of_magnitude, Nat.mul_comm k,
      roundHalfEven_mul _ _ positive, magnitude, rounded, ofParts_self]
  simp only [Double.ofRatio, scaled _ (Nat.two_pow_pos 1074)]

/-- A sign and a magnitude have a single normal form. -/
theorem eq_of_magnitude {x y : Finite} (sign : x.negative = y.negative)
    (same : x.magnitude = y.magnitude) : x = y := by
  refine Double.finite.inj ?_
  rw [← x.ofRatio_magnitude, sign, same, y.ofRatio_magnitude]

end Finite

namespace Decimal

/-- The place before the first digit decides what is out of range. -/
def top (d : Decimal) : Int := digitCount d.coefficient + d.exponent

/-- A decimal within range is rounded as a fraction. -/
theorem toDouble_eq (d : Decimal) :
    d.toDouble =
      if d.coefficient = 0 ∨ d.top < -330 then .finite (.zero d.negative)
      else if 310 < d.top then .infinite d.negative
      else .ofRatio d.negative (d.coefficient * 10 ^ d.exponent.toNat)
        (10 ^ (-d.exponent).toNat) := by
  obtain ⟨negative, coefficient, exponent⟩ := d
  cases exponent with
  | ofNat up => simp [toDouble, top]
  | negSucc down => simp [toDouble, top]

/-- Zeros at the end of the coefficient may go into the power of ten. -/
theorem toDouble_shift (negative : Bool) (coefficient : Nat) (exponent : Int) (k : Nat) :
    toDouble ⟨negative, coefficient * 10 ^ k, exponent⟩ =
      toDouble ⟨negative, coefficient, exponent + k⟩ := by
  by_cases zero : coefficient = 0
  · simp [toDouble_eq, zero]
  have shifted : coefficient * 10 ^ k ≠ 0 :=
    Nat.mul_ne_zero zero (Nat.ne_of_gt (Nat.pow_pos (by decide)))
  -- the first digit stays in its place, so both are within range or neither is
  have same : top ⟨negative, coefficient * 10 ^ k, exponent⟩ =
      top ⟨negative, coefficient, exponent + k⟩ := by
    simp only [top, digitCount_mul_pow zero]
    omega
  have ratio : Double.ofRatio negative (coefficient * 10 ^ k * 10 ^ exponent.toNat)
        (10 ^ (-exponent).toNat) =
      Double.ofRatio negative (coefficient * 10 ^ (exponent + k).toNat)
        (10 ^ (-(exponent + k)).toNat) := by
    refine Double.ofRatio_congr negative (Nat.pow_pos (by decide)) (Nat.pow_pos (by decide)) ?_
    simp only [Nat.mul_assoc, ← Nat.pow_add]
    congr 2
    omega
  simp only [toDouble_eq, zero, shifted, same, ratio]

/-- `n * 5 ^ k / 10 ^ k` is `n / 2 ^ k`. -/
theorem toDouble_scaled (negative : Bool) {n : Nat} (nonzero : n ≠ 0) (k : Nat)
    (low : -330 ≤ top ⟨negative, n * 5 ^ k, -k⟩) (high : top ⟨negative, n * 5 ^ k, -k⟩ ≤ 310) :
    toDouble ⟨negative, n * 5 ^ k, -k⟩ = .ofRatio negative n (2 ^ k) := by
  have scaled : n * 5 ^ k ≠ 0 :=
    Nat.mul_ne_zero nonzero (Nat.ne_of_gt (Nat.pow_pos (by decide)))
  have same : n * 5 ^ k * 10 ^ (-(k : Int)).toNat * 2 ^ k = n * 10 ^ (- -(k : Int)).toNat := by
    simp [Nat.mul_assoc, ← Nat.mul_pow]
  rw [toDouble_eq, if_neg (not_or.mpr ⟨scaled, Int.not_lt.mpr low⟩), if_neg (Int.not_lt.mpr high)]
  exact Double.ofRatio_congr negative (Nat.pow_pos (by decide)) (Nat.two_pow_pos k) same

/-- What trailing zeros of a text say about the number it spells. -/
theorem pow_dvd_of_trailing (n : Nat) :
    10 ^ ((Nat.toDigits 10 n).reverse.takeWhile (· == '0')).length ∣ n := by
  have split := @List.takeWhile_append_dropWhile _ (· == '0') (Nat.toDigits 10 n).reverse
  generalize zeros : (Nat.toDigits 10 n).reverse.takeWhile (· == '0') = back at split
  generalize (Nat.toDigits 10 n).reverse.dropWhile (· == '0') = front at split
  have all : back = List.replicate back.length '0' := by
    refine List.eq_replicate_of_mem fun c member => ?_
    rw [← zeros] at member
    exact eq_of_beq (List.all_eq_true.mp List.all_takeWhile c member)
  have digits : Nat.toDigits 10 n = front.reverse ++ back.reverse := by
    rw [← List.reverse_append, split, List.reverse_reverse]
  have spelled := ofDigits_toDigits n
  rw [digits, all, List.reverse_replicate, ofDigits_append, ofDigits_replicate_zero,
    List.length_replicate, Nat.add_zero] at spelled
  exact ⟨ofDigits front.reverse, by rw [← spelled, Nat.mul_comm]⟩

theorem toDouble_strip (d : Decimal) : d.strip.toDouble = d.toDouble := by
  by_cases zero : d.coefficient = 0
  · simp [strip, toDouble_eq, zero]
  · simp only [strip, if_neg zero]
    rw [← toDouble_shift, Nat.div_mul_cancel (pow_dvd_of_trailing d.coefficient)]

end Decimal

namespace Finite

/-- Where the first digit of a double other than zero stands, within the range of `toDouble`. -/
theorem exactDecimal_top (x : Finite) (nonzero : x.magnitude ≠ 0) :
    -330 ≤ x.exactDecimal.top ∧ x.exactDecimal.top ≤ 310 := by
  simp only [Decimal.top, exactDecimal]
  constructor
  · have many : ¬ digitCount (x.magnitude * 5 ^ 1074) ≤ 744 := by
      rw [digitCount_le_iff, Nat.not_lt]
      have large : 10 ^ 744 ≤ 5 ^ 1074 := by decide +kernel
      exact Nat.le_trans large (Nat.le_mul_of_pos_left _ (Nat.pos_of_ne_zero nonzero))
    omega
  · have few : digitCount (x.magnitude * 5 ^ 1074) ≤ 1384 := by
      rw [digitCount_le_iff]
      have power (limit : Nat) (le : x.exponent ≤ limit) : 2 ^ x.exponent ≤ 2 ^ limit :=
        Nat.pow_le_pow_right (by decide) le
      have bound := Nat.mul_le_mul (Nat.le_of_lt x.coefficient_lt) (power _ x.exponent_le)
      have small : 2 ^ 53 * 2 ^ 2045 * 5 ^ 1074 < 10 ^ 1384 := by decide +kernel
      exact Nat.lt_of_le_of_lt (Nat.mul_le_mul_right _ bound) small
    omega

theorem exactDecimal_readsBack (x : Finite) : x.ReadsBack x.exactDecimal := by
  by_cases zero : x.magnitude = 0
  · -- without a coefficient the exponent is zero too, as the number is in normal form
    obtain ⟨negative, coefficient, exponent, small, bound, normal⟩ := x
    have empty : coefficient = 0 :=
      (Nat.mul_eq_zero.mp zero).resolve_right (Nat.ne_of_gt (Nat.pow_pos (by decide)))
    have least : exponent = 0 := normal.resolve_right (by omega)
    subst empty least
    simp only [ReadsBack, Decimal.toDouble_eq, exactDecimal, zero, Nat.zero_mul, true_or, if_true,
      Finite.zero]
  · have range := x.exactDecimal_top zero
    exact (Decimal.toDouble_scaled x.negative zero 1074 range.1 range.2).trans x.ofRatio_magnitude

/-- The shortest decimal stands for the number: it was tried, or it is exact. -/
theorem shortest_readsBack (x : Finite) : x.ReadsBack x.shortest := by
  rw [shortest]
  cases found : (List.range 17).findSome? fun n => x.decimalOfLength? (n + 1) with
  | none => exact x.exactDecimal_readsBack
  | some d =>
    obtain ⟨n, _, tried⟩ := List.exists_of_findSome?_eq_some found
    rw [decimalOfLength?] at tried
    simpa using List.find?_some tried

/-- What is written stands for the number. -/
theorem toDouble_shortest_strip (x : Finite) : x.shortest.strip.toDouble = .finite x := by
  rw [Decimal.toDouble_strip]
  exact x.shortest_readsBack

end Finite
end MatchTree
