import MatchTree.Proofs.Number.Scaling

/-!
What becomes of a double that is written in a document and read from it.

The decimal that is written stands for the double. It is read by arithmetic on doubles, though, and
what that gives may be another double; with a small coefficient and a power of ten near to one it is
the same.
-/

set_option autoImplicit false
namespace MatchTree

namespace Decimal
variable (d : Decimal)

/-- As it is spelled with a point and a zero after it. -/
def withPoint : Decimal :=
  ⟨d.negative, d.coefficient * 10 ^ (d.exponent.toNat + 1), -1⟩

theorem toDouble_withPoint {d : Decimal} (whole : 0 ≤ d.exponent) :
    d.withPoint.toDouble = d.toDouble := by
  have place : -1 + ((d.exponent.toNat + 1 : Nat) : Int) = d.exponent := by omega
  rw [withPoint, toDouble_shift, place]

theorem strip_coefficient_le : d.strip.coefficient ≤ d.coefficient := by
  rw [strip]
  split
  · exact Nat.zero_le _
  · exact Nat.div_le_self ..

/-- Zeros at the end of the coefficient may stand in the power of ten. -/
theorem size_strip : d.strip.size = d.size := by
  by_cases zero : d.coefficient = 0
  · simp [strip, size, zero]
  · have whole := Nat.div_mul_cancel (pow_dvd_of_trailing d.coefficient)
    simp only [strip, if_neg zero, size]
    rw [zpow_add₀ (by norm_num), zpow_natCast, mul_comm (10 ^ _), ← mul_assoc]
    congr 1
    exact_mod_cast whole

end Decimal

namespace Finite
variable (x : Finite)

/-- The decimal that the text of a document spells. -/
def written : Decimal :=
  let d := x.shortest.strip
  let place : Int := d.exponent + digitCount d.coefficient - 1
  if (d.coefficient = 0 ∨ (-5 ≤ place ∧ place ≤ 15)) ∧ 0 ≤ d.exponent then d.withPoint else d

theorem toDouble_written : x.written.toDouble = .finite x := by
  have near := x.toDouble_shortest_strip
  simp only [written]
  split
  case isTrue plain => exact (Decimal.toDouble_withPoint plain.2).trans near
  case isFalse => exact near

theorem written_coefficient_le : x.written.coefficient ≤ 10 ^ 17 := by
  have few := x.shortest.strip_coefficient_le.trans x.shortest_coefficient_le
  simp only [written]
  split
  case isFalse => exact few
  case isTrue plain =>
    generalize x.shortest.strip = d at *
    -- the digits and the zeros up to the point are sixteen at most, and one more zero follows
    obtain ⟨zero | ⟨_, low⟩, whole⟩ := plain
    · rw [Decimal.withPoint, zero, Nat.zero_mul]
      exact Nat.zero_le _
    · have below := digitCount_le_iff.mp (Nat.le_refl (digitCount d.coefficient))
      calc d.coefficient * 10 ^ (d.exponent.toNat + 1)
          ≤ 10 ^ digitCount d.coefficient * 10 ^ (d.exponent.toNat + 1) :=
            Nat.mul_le_mul_right _ below.le
        _ = 10 ^ (digitCount d.coefficient + (d.exponent.toNat + 1)) := (Nat.pow_add ..).symm
        _ ≤ 10 ^ 17 := Nat.pow_le_pow_right (by decide) (by omega)

/-- Whatever is written is read as a double. -/
theorem exists_scaled_written : ∃ y, x.written.scaled? = some y := by
  have few := x.shortest.strip_coefficient_le.trans x.shortest_coefficient_le
  have size := x.shortest.size_strip.trans_le x.shortest_size_le
  have many : 10 ^ 17 ≤ 10 ^ 308 := Nat.pow_le_pow_right (by decide) (by decide)
  have least := x.written_coefficient_le.trans many
  simp only [written] at least ⊢
  generalize x.shortest.strip = d at *
  -- a negative power of ten is always read, and it is one wherever a zero follows the point
  split
  case isTrue plain =>
    rw [if_pos plain] at least
    exact Decimal.exists_scaled_negSucc _ least 0
  case isFalse wide =>
    rw [if_neg wide] at least
    obtain ⟨negative, n, exponent⟩ := d
    cases exponent with
    | negSucc down => exact Decimal.exists_scaled_negSucc negative least down
    | ofNat up =>
      rw [Decimal.size_ofNat, Nat.cast_le] at size
      have nonzero : n ≠ 0 := fun zero => wide ⟨.inl zero, Int.natCast_nonneg up⟩
      exact Decimal.exists_scaled_ofNat negative nonzero few size

/-- What the text of a document is read as. -/
def reread : Finite := x.written.scaled?.get (Option.isSome_iff_exists.mpr x.exists_scaled_written)

theorem scaled?_written : x.written.scaled? = some x.reread :=
  (Option.some_get _).symm

theorem reread_of_small (few : x.written.coefficient ≤ 2 ^ 53) (low : -22 ≤ x.written.exponent)
    (high : x.written.exponent ≤ 22) : x.reread = x := by
  have same := Decimal.scaled?_of_small few low high
  rw [scaled?_written, toDouble_written, Double.finite?] at same
  exact Option.some.inj same

end Finite
end MatchTree
