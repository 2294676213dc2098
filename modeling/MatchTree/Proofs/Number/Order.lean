import MatchTree.Proofs.Number.Integral

/-!
Rounding keeps the order of numbers.

Among the numbers with one place for their last digit, the greater quotient is rounded to the
greater integer. A number with a higher place is rounded to at least the first number with that
place, and no number below is rounded beyond it.
-/

set_option autoImplicit false
namespace MatchTree

theorem roundHalfEven_mono {denominator : Nat} (positive : 0 < denominator) {m n : Nat}
    (le : m ≤ n) : roundHalfEven m denominator ≤ roundHalfEven n denominator := by
  have whole := Nat.div_le_div_right (c := denominator) le
  have first := Nat.div_add_mod m denominator
  have second := Nat.div_add_mod n denominator
  have rest := Nat.mod_lt m positive
  simp only [roundHalfEven]
  obtain same | less := Nat.eq_or_lt_of_le whole
  · -- with one quotient, the greater number leaves the greater remainder
    rw [same] at first ⊢
    split <;> split <;> omega
  · split <;> split <;> omega

theorem roundHalfEven_mul_self (n : Nat) {k : Nat} (positive : 0 < k) :
    roundHalfEven (n * k) k = n := by
  have scaled := roundHalfEven_mul n 1 positive
  rwa [Nat.one_mul, roundHalfEven_one] at scaled

namespace Double

/-- The place of the last binary digit that is kept of a fraction of units. -/
def lastPlace (units denominator : Nat) : Nat := (units / denominator).log2 - 52

/-- The coefficient that a fraction of units is rounded to. -/
def rounded (units denominator : Nat) : Nat :=
  roundHalfEven units (denominator * 2 ^ lastPlace units denominator)

/-- How many units a fraction of units is rounded to. -/
def nearest (units denominator : Nat) : Nat :=
  rounded units denominator * 2 ^ lastPlace units denominator

theorem lastPlace_mono (d : Nat) {u v : Nat} (le : u ≤ v) : lastPlace u d ≤ lastPlace v d := by
  have quotient : u / d ≤ v / d := Nat.div_le_div_right le
  have digits : (u / d).log2 ≤ (v / d).log2 := by
    by_cases zero : u / d = 0
    · rw [zero, Nat.log2_zero]
      exact Nat.zero_le _
    · have nonzero := Nat.ne_of_gt (Nat.lt_of_lt_of_le (Nat.pos_of_ne_zero zero) quotient)
      exact (Nat.le_log2 nonzero).mpr (Nat.le_trans (Nat.log2_self_le zero) quotient)
  exact Nat.sub_le_sub_right digits 52

section
variable {u v d : Nat} (positive : 0 < d)
include positive

theorem rounded_le : rounded u d ≤ 2 ^ 53 := by
  have scale : 0 < d * 2 ^ lastPlace u d := Nat.mul_pos positive (Nat.two_pow_pos _)
  have below : u ≤ 2 ^ 53 * (d * 2 ^ lastPlace u d) := by
    have top : (u / d).log2 + 1 ≤ 53 + lastPlace u d := by
      rw [lastPlace]
      omega
    have quotient : u / d < 2 ^ (53 + lastPlace u d) :=
      Nat.lt_of_lt_of_le Nat.lt_log2_self (Nat.pow_le_pow_right (by decide) top)
    rw [Nat.div_lt_iff_lt_mul positive, Nat.pow_add] at quotient
    calc u ≤ 2 ^ 53 * 2 ^ lastPlace u d * d := Nat.le_of_lt quotient
      _ = 2 ^ 53 * (d * 2 ^ lastPlace u d) := by rw [Nat.mul_assoc, Nat.mul_comm d]
  exact roundHalfEven_mul_self (2 ^ 53) scale ▸ roundHalfEven_mono scale below

/-- Where digits are dropped, the number has a place for each that is kept. -/
theorem le_units (high : lastPlace u d ≠ 0) : 2 ^ 52 * (d * 2 ^ lastPlace u d) ≤ u := by
  have top : (u / d).log2 = 52 + lastPlace u d := by
    rw [lastPlace] at high ⊢
    omega
  have nonzero : u / d ≠ 0 := fun zero => by simp [lastPlace, zero] at high
  have quotient := Nat.log2_self_le nonzero
  rw [top, Nat.le_div_iff_mul_le positive, Nat.pow_add] at quotient
  calc 2 ^ 52 * (d * 2 ^ lastPlace u d) = 2 ^ 52 * 2 ^ lastPlace u d * d := by
        rw [Nat.mul_assoc, Nat.mul_comm d]
    _ ≤ u := quotient

theorem le_rounded (high : lastPlace u d ≠ 0) : 2 ^ 52 ≤ rounded u d := by
  have scale : 0 < d * 2 ^ lastPlace u d := Nat.mul_pos positive (Nat.two_pow_pos _)
  exact roundHalfEven_mul_self (2 ^ 52) scale ▸ roundHalfEven_mono scale (le_units positive high)

theorem nearest_mono (le : u ≤ v) : nearest u d ≤ nearest v d := by
  have place := lastPlace_mono d le
  obtain same | less := Nat.eq_or_lt_of_le place
  · rw [nearest, nearest, rounded, rounded, same]
    exact Nat.mul_le_mul_right _
      (roundHalfEven_mono (Nat.mul_pos positive (Nat.two_pow_pos _)) le)
  · calc rounded u d * 2 ^ lastPlace u d ≤ 2 ^ 53 * 2 ^ lastPlace u d :=
          Nat.mul_le_mul_right _ (rounded_le positive)
      _ = 2 ^ 52 * 2 ^ (lastPlace u d + 1) := (two_pow_carry _).symm
      _ ≤ 2 ^ 52 * 2 ^ lastPlace v d :=
          Nat.mul_le_mul_left _ (Nat.pow_le_pow_right (by decide) less)
      _ ≤ rounded v d * 2 ^ lastPlace v d :=
          Nat.mul_le_mul_right _ (le_rounded positive (by omega))

end

/-! ## Integers -/

theorem exists_ofParts (negative : Bool) {coefficient exponent : Nat}
    (small : coefficient ≤ 2 ^ 53) (low : exponent + 1 ≤ 2045)
    (normal : exponent ≠ 0 → 2 ^ 52 ≤ coefficient) :
    ∃ x : Finite, ofParts negative coefficient exponent = .finite x ∧ x.negative = negative ∧
      x.magnitude = coefficient * 2 ^ exponent := by
  rw [ofParts]
  split
  case isTrue valid => exact ⟨_, rfl, rfl, rfl⟩
  case isFalse invalid =>
    obtain rfl : coefficient = 2 ^ 53 := by
      refine Nat.le_antisymm small (Nat.not_lt.mp fun less => invalid ⟨less, by omega, ?_⟩)
      exact Decidable.or_iff_not_imp_left.mpr normal
    exact ⟨_, dif_pos ⟨rfl, low⟩, rfl, two_pow_carry exponent⟩

/-- How many units an integer is rounded to. -/
def unitsOfInt (i : Int) : Int := signed (i < 0) (nearest (i.natAbs * 2 ^ 1074) 1)

/-- No integer of 64 bits is rounded to infinity. -/
theorem exists_ofInt {i : Int} (small : i.natAbs < 2 ^ 64) :
    ∃ x : Finite, ofInt i = .finite x ∧ x.negative = decide (i < 0) ∧ x.units = unitsOfInt i := by
  have low : lastPlace (i.natAbs * 2 ^ 1074) 1 + 1 ≤ 2045 := by
    have few (k : Nat) : (i.natAbs * 2 ^ k / 1).log2 ≤ 64 + k := by
      rw [Nat.div_one]
      by_cases zero : i.natAbs * 2 ^ k = 0
      · rw [zero, Nat.log2_zero]
        exact Nat.zero_le _
      · refine Nat.le_of_lt ((Nat.log2_lt zero).mpr ?_)
        rw [Nat.pow_add]
        exact Nat.mul_lt_mul_of_pos_right small (Nat.two_pow_pos k)
    have := few 1074
    rw [lastPlace]
    omega
  obtain ⟨x, made, sign, size⟩ := exists_ofParts (decide (i < 0)) (rounded_le Nat.one_pos) low
    (le_rounded Nat.one_pos)
  exact ⟨x, made, sign, by rw [x.units_eq_signed, sign, size, unitsOfInt, nearest]⟩

theorem unitsOfInt_mono {i j : Int} (le : i ≤ j) : unitsOfInt i ≤ unitsOfInt j := by
  have size {m n : Nat} (le : m ≤ n) : nearest (m * 2 ^ 1074) 1 ≤ nearest (n * 2 ^ 1074) 1 :=
    nearest_mono Nat.one_pos (Nat.mul_le_mul_right _ le)
  simp only [unitsOfInt, signed, decide_eq_true_eq]
  split
  case isTrue negative =>
    split
    case isTrue =>
      have := size (m := j.natAbs) (n := i.natAbs) (by omega)
      omega
    case isFalse => omega
  case isFalse =>
    rw [if_neg (by omega)]
    have := size (m := i.natAbs) (n := j.natAbs) (by omega)
    omega

theorem unitsOfInt_exact {i : Int} (small : i.natAbs ≤ 2 ^ 53) : unitsOfInt i = i * 2 ^ 1074 := by
  obtain ⟨x, made, exact⟩ := ofInt_exact small
  obtain ⟨y, made', _, units⟩ := exists_ofInt (i := i) (Nat.lt_of_le_of_lt small (by decide))
  obtain rfl : x = y := finite.inj (made.symm.trans made')
  exact units.symm.trans exact

/-- No negative integer is rounded to zero, as `-1` is not. -/
theorem unitsOfInt_neg_iff {i : Int} : unitsOfInt i < 0 ↔ i < 0 := by
  have scale (k : Nat) : (-1 : Int) * 2 ^ k < 0 := by
    have : (0 : Int) < 2 ^ k := Int.pow_pos (by decide)
    omega
  constructor
  · intro negative
    by_contra nonnegative
    have := unitsOfInt_mono (Int.not_lt.mp nonnegative)
    rw [unitsOfInt_exact (by decide), Int.zero_mul] at this
    omega
  · intro negative
    refine Int.lt_of_le_of_lt (unitsOfInt_mono (Int.le_sub_one_of_lt negative)) ?_
    rw [unitsOfInt_exact (by decide)]
    exact scale 1074

/-- Integers are rounded to one double exactly if they are rounded to as many units. -/
theorem ofInt_eq_iff {i j : Int} (small : i.natAbs < 2 ^ 64) (small' : j.natAbs < 2 ^ 64) :
    ofInt i = ofInt j ↔ unitsOfInt i = unitsOfInt j := by
  obtain ⟨x, made, sign, units⟩ := exists_ofInt small
  obtain ⟨y, made', sign', units'⟩ := exists_ofInt small'
  rw [made, made', finite.injEq, ← units, ← units']
  constructor
  · exact congrArg Finite.units
  · intro same
    have negative : x.negative = y.negative := by
      have both : i < 0 ↔ j < 0 := by
        rw [← @unitsOfInt_neg_iff i, ← units, same, units', unitsOfInt_neg_iff]
      rw [sign, sign', decide_eq_decide.mpr both]
    have magnitude : x.magnitude = y.magnitude := by
      rw [Finite.units, Finite.units, negative] at same
      split at same <;> omega
    exact Finite.eq_of_magnitude negative magnitude

end Double
end MatchTree
