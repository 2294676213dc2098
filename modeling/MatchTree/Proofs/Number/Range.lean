import MatchTree.Proofs.Number.Order

/-!
The range of the doubles: a fraction is rounded to a double exactly if what it is rounded to is no
larger than the largest, so a fraction below one that is within the range is within it too.
-/

set_option autoImplicit false
namespace MatchTree

namespace Double

/-- The largest double in units. -/
def largest : Nat := (2 ^ 53 - 1) * 2 ^ 2045

theorem le_largest {coefficient exponent : Nat} (small : coefficient < 2 ^ 53)
    (low : exponent ≤ 2045) : coefficient * 2 ^ exponent ≤ largest := by
  have power (limit : Nat) (le : exponent ≤ limit) :
      coefficient * 2 ^ exponent ≤ (2 ^ 53 - 1) * 2 ^ limit :=
    Nat.mul_le_mul (Nat.le_sub_one_of_lt small) (Nat.pow_le_pow_right (by decide) le)
  rw [largest]
  exact power 2045 low

theorem largest_lt {coefficient exponent : Nat} (large : 2 ^ 52 ≤ coefficient)
    (high : 2046 ≤ exponent) : largest < coefficient * 2 ^ exponent := by
  have power (limit : Nat) (le : limit + 1 ≤ exponent) :
      (2 ^ 53 - 1) * 2 ^ limit < coefficient * 2 ^ exponent :=
    calc (2 ^ 53 - 1) * 2 ^ limit < 2 ^ 53 * 2 ^ limit :=
          Nat.mul_lt_mul_of_pos_right (by decide) (Nat.two_pow_pos limit)
      _ = 2 ^ 52 * 2 ^ (limit + 1) := (two_pow_carry limit).symm
      _ ≤ coefficient * 2 ^ exponent :=
          Nat.mul_le_mul large (Nat.pow_le_pow_right (by decide) le)
  rw [largest]
  exact power 2045 high

/-- The parts of a double that has been made say how many units it has. -/
theorem magnitude_of_ofParts {negative : Bool} {coefficient exponent : Nat} {x : Finite}
    (made : ofParts negative coefficient exponent = .finite x) :
    x.negative = negative ∧ x.magnitude = coefficient * 2 ^ exponent := by
  rw [ofParts] at made
  split at made
  case isTrue => exact finite.inj made ▸ ⟨rfl, rfl⟩
  case isFalse =>
    split at made
    case isFalse => contradiction
    case isTrue carried =>
      obtain ⟨rfl, _⟩ := carried
      obtain rfl := finite.inj made
      exact ⟨rfl, two_pow_carry exponent⟩

end Double

theorem Finite.magnitude_le (x : Finite) : x.magnitude ≤ Double.largest :=
  Double.le_largest x.coefficient_lt x.exponent_le

namespace Double

theorem exists_ofParts_iff (negative : Bool) {coefficient exponent : Nat}
    (small : coefficient ≤ 2 ^ 53) (normal : exponent ≠ 0 → 2 ^ 52 ≤ coefficient) :
    (∃ x, ofParts negative coefficient exponent = .finite x) ↔
      coefficient * 2 ^ exponent ≤ largest := by
  constructor
  · rintro ⟨x, made⟩
    rw [← (magnitude_of_ofParts made).2]
    exact x.magnitude_le
  · intro within
    have low : exponent ≤ 2045 := by
      by_contra high
      exact Nat.not_lt.mpr within (largest_lt (normal (by omega)) (by omega))
    by_cases top : exponent = 2045 ∧ coefficient = 2 ^ 53
    · -- what is carried would be past the largest
      obtain ⟨last, rfl⟩ := top
      rw [← two_pow_carry] at within
      exact absurd within (Nat.not_le.mpr (largest_lt (Nat.le_refl _) (by omega)))
    · rw [ofParts]
      split
      case isTrue => exact ⟨_, rfl⟩
      case isFalse invalid =>
        obtain rfl : coefficient = 2 ^ 53 := by
          refine Nat.le_antisymm small (Nat.not_lt.mp fun less => invalid ⟨less, low, ?_⟩)
          exact Decidable.or_iff_not_imp_left.mpr normal
        exact ⟨_, dif_pos ⟨rfl, by omega⟩⟩

theorem magnitude_of_ofRatio {negative : Bool} {n d : Nat} {x : Finite}
    (made : ofRatio negative n d = .finite x) :
    x.negative = negative ∧ x.magnitude = nearest (n * 2 ^ 1074) d :=
  magnitude_of_ofParts made

/-- A fraction that is rounded to a double. -/
def InRange (n d : Nat) : Prop := nearest (n * 2 ^ 1074) d ≤ largest

theorem exists_ofRatio_iff (negative : Bool) {n d : Nat} (positive : 0 < d) :
    (∃ x, ofRatio negative n d = .finite x) ↔ InRange n d :=
  exists_ofParts_iff negative (rounded_le positive) (le_rounded positive)

theorem nearest_mul (u d : Nat) {k : Nat} (positive : 0 < k) :
    nearest (u * k) (d * k) = nearest u d := by
  have place : lastPlace (u * k) (d * k) = lastPlace u d := by
    rw [lastPlace, Nat.mul_div_mul_right _ _ positive, lastPlace]
  rw [nearest, nearest, rounded, rounded, place, Nat.mul_right_comm d k,
    roundHalfEven_mul _ _ positive]

/-- The greater fraction is rounded to the greater number. -/
theorem nearest_le_nearest {u v d d' : Nat} (left : 0 < d) (right : 0 < d') (le : u * d' ≤ v * d) :
    nearest u d ≤ nearest v d' := by
  rw [← nearest_mul u d right, ← nearest_mul v d' left, Nat.mul_comm d' d]
  exact nearest_mono (Nat.mul_pos left right) le

theorem InRange.of_le {n n' d d' : Nat} (range : InRange n' d') (left : 0 < d) (right : 0 < d')
    (le : n * d' ≤ n' * d) : InRange n d := by
  refine Nat.le_trans (nearest_le_nearest left right ?_) range
  rw [Nat.mul_right_comm, Nat.mul_right_comm n']
  exact Nat.mul_le_mul_right _ le

end Double

namespace Finite

/-- A double counts as many units as it is rounded to. -/
theorem nearest_magnitude (x : Finite) : Double.nearest x.magnitude 1 = x.magnitude := by
  have made := (Double.magnitude_of_ofRatio x.ofRatio_magnitude).2
  have scaled := Double.nearest_mul x.magnitude 1 (Nat.two_pow_pos 1074)
  rw [Nat.one_mul, ← made] at scaled
  exact scaled.symm

theorem inRange (x : Finite) : Double.InRange x.magnitude (2 ^ 1074) :=
  (Double.exists_ofRatio_iff x.negative (Nat.two_pow_pos 1074)).mp ⟨x, x.ofRatio_magnitude⟩

end Finite
end MatchTree
