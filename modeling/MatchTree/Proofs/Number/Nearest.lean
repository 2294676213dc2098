import Mathlib.Algebra.Order.Field.Basic
import MatchTree.Proofs.Number.Order

/-!
The double that an integer is rounded to is the nearest.

It is the nearest multiple of the place that its last digit has. The doubles with a higher last
place are multiples of this one; those with a lower are below all numbers that have this place, and
the least of these is a multiple too.
-/

set_option autoImplicit false
namespace MatchTree

/-- No double is nearer to a number, and where another is as near, the last digit is even. -/
structure Finite.Nearest (x : Finite) (number : ℚ) : Prop where
  le : ∀ y : Finite, |x.toRat - number| ≤ |y.toRat - number|
  even : ∀ y : Finite, |y.toRat - number| = |x.toRat - number| → y.toRat ≠ x.toRat →
    x.coefficient % 2 = 0

/-- A chosen number is no farther off than another one; where both are as far, `tie` holds. -/
def Prefers (tie : Prop) (number chosen other : Int) : Prop :=
  (chosen - number).natAbs ≤ (other - number).natAbs ∧
    ((other - number).natAbs = (chosen - number).natAbs → other ≠ chosen → tie)

/-! ## Multiples -/

section
variable {denominator : Nat} (positive : 0 < denominator) (n : Nat)
include positive

theorem roundHalfEven_gap :
    2 * (((roundHalfEven n denominator * denominator : Nat) : Int) - n).natAbs ≤ denominator ∧
      (2 * (((roundHalfEven n denominator * denominator : Nat) : Int) - n).natAbs = denominator →
        roundHalfEven n denominator % 2 = 0) := by
  have whole := Nat.div_add_mod n denominator
  have rest := Nat.mod_lt n positive
  rw [Nat.mul_comm] at whole
  simp only [roundHalfEven]
  split
  case isTrue near =>
    generalize n / denominator * denominator = below at *
    omega
  case isFalse far =>
    rw [Nat.add_one_mul (n / denominator)]
    generalize n / denominator * denominator = below at *
    omega

/-- The multiples of the denominator are apart by the denominator, so no other is nearer. -/
theorem roundHalfEven_prefers (k : Nat) : Prefers (roundHalfEven n denominator % 2 = 0) n
    (roundHalfEven n denominator * denominator : Nat) (k * denominator : Nat) := by
  rw [Prefers]
  obtain ⟨gap, tie⟩ := roundHalfEven_gap positive n
  obtain less | same | more := Nat.lt_trichotomy k (roundHalfEven n denominator)
  · have apart := Nat.mul_le_mul_right denominator less
    rw [Nat.add_one_mul] at apart
    generalize k * denominator = multiple at *
    generalize roundHalfEven n denominator * denominator = chosen at *
    omega
  · rw [same]
    exact ⟨Nat.le_refl _, fun _ other => absurd rfl other⟩
  · have apart := Nat.mul_le_mul_right denominator more
    rw [Nat.add_one_mul] at apart
    generalize k * denominator = multiple at *
    generalize roundHalfEven n denominator * denominator = chosen at *
    omega

end

/-! ## Doubles -/

namespace Double

/-- What a fraction of units is rounded to is nearer than what any double counts. -/
theorem nearest_prefers (u : Nat) {d : Nat} (positive : 0 < d) (y : Finite) :
    Prefers (rounded u d % 2 = 0) u (nearest u d * d : Nat) (y.magnitude * d : Nat) := by
  have scale : 0 < d * 2 ^ lastPlace u d := Nat.mul_pos positive (Nat.two_pow_pos _)
  have near := roundHalfEven_prefers scale u
  have multiple (n : Nat) : n * 2 ^ lastPlace u d * d = n * (d * 2 ^ lastPlace u d) := by
    rw [Nat.mul_assoc, Nat.mul_comm d]
  rw [nearest, multiple]
  by_cases place : lastPlace u d ≤ y.exponent
  · obtain ⟨shift, sum⟩ := Nat.exists_eq_add_of_le' place
    rw [Finite.magnitude, sum, Nat.pow_add, ← Nat.mul_assoc y.coefficient, multiple]
    exact near (y.coefficient * 2 ^ shift)
  · -- below the least multiple with that place, which is not above `u`
    have least := le_units positive (u := u) (by omega)
    have below : y.magnitude * d < 2 ^ 52 * (d * 2 ^ lastPlace u d) := by
      have lower : y.exponent + 1 ≤ lastPlace u d := by omega
      rw [← multiple]
      refine Nat.mul_lt_mul_of_pos_right ?_ positive
      calc y.magnitude < 2 ^ 53 * 2 ^ y.exponent :=
            Nat.mul_lt_mul_of_pos_right y.coefficient_lt (Nat.two_pow_pos _)
        _ = 2 ^ 52 * 2 ^ (y.exponent + 1) := (two_pow_carry _).symm
        _ ≤ 2 ^ 52 * 2 ^ lastPlace u d :=
            Nat.mul_le_mul_left _ (Nat.pow_le_pow_right (by decide) lower)
    obtain ⟨closer, _⟩ := near (2 ^ 52)
    rw [rounded]
    generalize 2 ^ 52 * (d * 2 ^ lastPlace u d) = multiple at *
    rw [Prefers]
    omega

/-- With signs as well: a double on the other side of zero is farther off than zero. -/
theorem signed_nearest_prefers (negative : Bool) (u : Nat) (y : Finite) :
    Prefers (rounded u 1 % 2 = 0) (signed negative u) (signed negative (nearest u 1)) y.units := by
  have same := nearest_prefers u Nat.one_pos y
  have zero := nearest_prefers u Nat.one_pos (.zero false)
  have none : (Finite.zero false).magnitude = 0 := rfl
  rw [none] at zero
  simp only [Nat.mul_one] at same zero
  rw [y.units_eq_signed]
  simp only [Prefers, signed] at *
  cases negative <;> cases y.negative <;> simp only [if_true, if_false, Bool.false_eq_true] <;>
    omega

theorem unitsOfInt_prefers (i : Int) (y : Finite) :
    Prefers (rounded (i.natAbs * 2 ^ 1074) 1 % 2 = 0) (i * 2 ^ 1074) (unitsOfInt i) y.units := by
  have near := signed_nearest_prefers (decide (i < 0)) (i.natAbs * 2 ^ 1074) y
  rwa [signed_natAbs i 1074] at near

theorem even_of_ofParts {negative : Bool} {coefficient exponent : Nat} {x : Finite}
    (made : ofParts negative coefficient exponent = .finite x) (even : coefficient % 2 = 0) :
    x.coefficient % 2 = 0 := by
  rw [ofParts] at made
  split at made
  · exact finite.inj made ▸ even
  · split at made
    · obtain rfl := finite.inj made
      show 2 ^ 52 % 2 = 0
      decide
    · contradiction

end Double

/-- Distances from an integer are counted in units. -/
theorem Finite.nearer_iff (x y : Finite) (i : ℤ) : |x.toRat - i| ≤ |y.toRat - i| ↔
    (x.units - i * 2 ^ 1074).natAbs ≤ (y.units - i * 2 ^ 1074).natAbs := by
  have scaled (k : ℕ) : |(x.units : ℚ) / 2 ^ k - i| ≤ |(y.units : ℚ) / 2 ^ k - i| ↔
      (x.units - i * 2 ^ k).natAbs ≤ (y.units - i * 2 ^ k).natAbs := by
    have positive : (0 : ℚ) < 2 ^ k := pow_pos two_pos k
    have distance (n : ℤ) : |(n : ℚ) / 2 ^ k - i| = ((n - i * 2 ^ k).natAbs : ℚ) / 2 ^ k := by
      have difference : (n : ℚ) / 2 ^ k - i = ((n - i * 2 ^ k : ℤ) : ℚ) / 2 ^ k := by
        push_cast
        rw [sub_div, mul_div_cancel_right₀ _ positive.ne']
      rw [difference, abs_div, abs_of_pos positive, Nat.cast_natAbs, Int.cast_abs]
    rw [distance, distance, div_le_div_iff_of_pos_right positive, Nat.cast_le]
  rw [toRat_eq, toRat_eq]
  exact scaled 1074

/-- An integer is rounded to the nearest double, and halfway between two to the even one. -/
theorem Double.nearest_ofInt {i : Int} (small : i.natAbs < 2 ^ 64) :
    ∃ x, ofInt i = .finite x ∧ x.Nearest i := by
  obtain ⟨x, made, _, units⟩ := exists_ofInt small
  have near (y : Finite) := unitsOfInt_prefers i y
  rw [← units] at near
  refine ⟨x, made, fun y => (x.nearer_iff y i).mpr (near y).1, fun y same other => ?_⟩
  have tie := Nat.le_antisymm ((y.nearer_iff x i).mp same.le) ((x.nearer_iff y i).mp same.ge)
  exact even_of_ofParts made ((near y).2 tie (mt Finite.toRat_inj_iff.mpr other))

end MatchTree
