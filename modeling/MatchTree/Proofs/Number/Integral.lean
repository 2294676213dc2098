import Mathlib.Algebra.Field.Rat
import Mathlib.Algebra.Order.Ring.Cast
import Mathlib.Algebra.Order.Ring.Rat
import Mathlib.Data.Int.Cast.Lemmas
import MatchTree.Proofs.Number.Rounding

/-!
Integers among the doubles.

A finite double denotes a fraction. Every integer up to `2 ^ 53` in size is among these fractions,
so nothing is lost when such an integer is made a double.
-/

set_option autoImplicit false
namespace MatchTree

/-- A size with a sign, `true` for minus. -/
def signed (negative : Bool) (n : Nat) : Int := if negative then -n else n

theorem signed_natAbs (i : Int) (k : Nat) :
    signed (decide (i < 0)) (i.natAbs * 2 ^ k) = i * 2 ^ k := by
  rw [signed, Nat.cast_mul, Nat.cast_pow, ← neg_mul]
  by_cases negative : i < 0
  · rw [if_pos (decide_eq_true negative), show -(i.natAbs : Int) = i by omega]
    rfl
  · rw [if_neg (by simpa using negative), show (i.natAbs : Int) = i by omega]
    rfl

namespace Finite

theorem units_eq_signed (x : Finite) : x.units = signed x.negative x.magnitude := rfl

/-- The number that is denoted: `± coefficient * 2 ^ (exponent - 1074)`. -/
def toRat (x : Finite) : ℚ :=
  (if x.negative then -1 else 1) * x.coefficient * 2 ^ ((x.exponent : ℤ) - 1074)

theorem units_eq (x : Finite) :
    x.units = (if x.negative then -1 else 1) * x.coefficient * 2 ^ x.exponent := by
  rw [units, magnitude]
  split <;> simp

theorem toRat_eq (x : Finite) : x.toRat = x.units / 2 ^ 1074 := by
  -- the argument is one for every scale, and so large a power is not looked at
  have scaled (k : ℕ) : (2 : ℚ) ^ ((x.exponent : ℤ) - k) = 2 ^ x.exponent / 2 ^ k := by
    rw [zpow_sub₀ two_ne_zero, zpow_natCast, zpow_natCast]
  have units : (x.units : ℚ) = (if x.negative then -1 else 1) * x.coefficient * 2 ^ x.exponent := by
    rw [units_eq]
    push_cast
    rfl
  rw [toRat, units, mul_div_assoc, ← scaled 1074]
  rfl

theorem toRat_lt_toRat_iff {x y : Finite} : x.toRat < y.toRat ↔ x < y := by
  have scaled (k : ℕ) : (x.units : ℚ) / 2 ^ k < y.units / 2 ^ k ↔ x.units < y.units := by
    rw [div_lt_div_iff_of_pos_right (pow_pos two_pos k), Int.cast_lt]
  rw [toRat_eq, toRat_eq]
  exact scaled 1074

theorem toRat_inj_iff {x y : Finite} : x.toRat = y.toRat ↔ x.units = y.units := by
  have scaled (k : ℕ) : (x.units : ℚ) / 2 ^ k = y.units / 2 ^ k ↔ x.units = y.units := by
    rw [div_left_inj' (pow_ne_zero k two_ne_zero), Int.cast_inj]
  rw [toRat_eq, toRat_eq]
  exact scaled 1074

/-- A finite number denotes an integer exactly if it counts so many units. -/
theorem toRat_eq_int_iff {x : Finite} {i : ℤ} : x.toRat = i ↔ x.units = i * 2 ^ 1074 := by
  have scaled (k : ℕ) : (x.units : ℚ) / 2 ^ k = i ↔ x.units = i * 2 ^ k := by
    rw [div_eq_iff (pow_ne_zero k two_ne_zero)]
    exact_mod_cast Iff.rfl
  rw [toRat_eq]
  exact scaled 1074

/-- There is a number for each coefficient of 53 binary digits. -/
theorem exists_of_magnitude (negative : Bool) {n e : Nat} (small : n < 2 ^ 53) (above : 52 ≤ e)
    (below : e ≤ 2045) : ∃ x : Finite, x.negative = negative ∧ x.magnitude = n * 2 ^ e := by
  by_cases zero : n = 0
  · exact ⟨.zero negative, rfl, by simp [magnitude, Finite.zero, zero]⟩
  -- the first digit goes to the place that the normal form has for it
  obtain ⟨shift, sum⟩ : ∃ shift, n.log2 + shift = 52 :=
    ⟨52 - n.log2, Nat.add_sub_cancel' (Nat.le_of_lt_succ ((Nat.log2_lt zero).mpr small))⟩
  have most : n * 2 ^ shift < 2 ^ 53 :=
    calc n * 2 ^ shift < 2 ^ (n.log2 + 1) * 2 ^ shift :=
        Nat.mul_lt_mul_of_pos_right Nat.lt_log2_self (Nat.two_pow_pos shift)
      _ = 2 ^ 53 := by rw [← Nat.pow_add, Nat.add_right_comm, sum]
  have least : 2 ^ 52 ≤ n * 2 ^ shift :=
    calc 2 ^ 52 = 2 ^ n.log2 * 2 ^ shift := by rw [← Nat.pow_add, sum]
      _ ≤ n * 2 ^ shift := Nat.mul_le_mul_right _ (Nat.log2_self_le zero)
  have down : shift + (e - shift) = e := by omega
  refine ⟨⟨negative, n * 2 ^ shift, e - shift, most, by omega, .inr least⟩, rfl, ?_⟩
  rw [magnitude, Nat.mul_assoc, ← Nat.pow_add, down]

/-- And for the one that has a digit more, which is a zero. -/
theorem exists_of_magnitude_le (negative : Bool) {n e : Nat} (small : n ≤ 2 ^ 53) (above : 52 ≤ e)
    (below : e ≤ 2044) : ∃ x : Finite, x.negative = negative ∧ x.magnitude = n * 2 ^ e := by
  obtain top | less := Nat.eq_or_lt_of_le small
  · rw [top, ← two_pow_carry]
    exact exists_of_magnitude _ (by decide) (by omega) (by omega)
  · exact exists_of_magnitude _ less above (by omega)

end Finite

namespace Double

/-- An integer of that size is a double, and that double is what the integer is made. -/
theorem ofInt_exact {i : ℤ} (small : i.natAbs ≤ 2 ^ 53) :
    ∃ x : Finite, ofInt i = .finite x ∧ x.units = i * 2 ^ 1074 := by
  have found (e : Nat) (above : 52 ≤ e) (below : e ≤ 2044) : ∃ x : Finite,
      x.negative = decide (i < 0) ∧ x.magnitude = i.natAbs * 2 ^ e ∧ x.units = i * 2 ^ e := by
    obtain ⟨x, sign, size⟩ := Finite.exists_of_magnitude_le (decide (i < 0)) small above below
    exact ⟨x, sign, size, by rw [x.units_eq_signed, sign, size, signed_natAbs]⟩
  obtain ⟨x, sign, size, units⟩ := found 1074 (by decide) (by decide)
  refine ⟨x, ?_, units⟩
  have rounded := x.ofRatio_magnitude
  rw [sign, size] at rounded
  rw [ofInt, ← rounded]
  exact ofRatio_congr _ Nat.one_pos (Nat.two_pow_pos 1074) (Nat.mul_one _).symm

/-- A small integer equals the doubles that denote it. -/
theorem ofInt_equals_iff {i : ℤ} (small : i.natAbs ≤ 2 ^ 53) (x : Double) :
    (ofInt i).equals x = true ↔ x.finite?.map Finite.toRat = some (i : ℚ) := by
  obtain ⟨y, made, units⟩ := ofInt_exact small
  rw [made]
  cases x with
  | finite x =>
    rw [finite?, Option.map_some, Option.some.injEq, Finite.toRat_eq_int_iff, equals, beq_iff_eq,
      units]
    exact eq_comm
  | _ => simp [equals, finite?]

/-- Small integers are kept apart. -/
theorem ofInt_equals_ofInt_iff {i j : ℤ} (small : i.natAbs ≤ 2 ^ 53) (small' : j.natAbs ≤ 2 ^ 53) :
    (ofInt i).equals (ofInt j) = true ↔ i = j := by
  obtain ⟨x, made, units⟩ := ofInt_exact small'
  have denoted : x.toRat = j := Finite.toRat_eq_int_iff.mpr units
  rw [ofInt_equals_iff small, made, finite?, Option.map_some, Option.some.injEq, denoted,
    Int.cast_inj]
  exact eq_comm

theorem equals_trans {x y z : Double} (first : x.equals y = true) (second : y.equals z = true) :
    x.equals z = true := by
  cases x <;> cases y <;> cases z <;> simp_all [equals]

end Double
end MatchTree
