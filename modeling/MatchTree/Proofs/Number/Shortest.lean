import Mathlib.Algebra.Order.Field.Power
import Mathlib.Data.Nat.Cast.Order.Field
import Mathlib.Tactic.FieldSimp
import Mathlib.Tactic.Linarith
import Mathlib.Tactic.Positivity
import MatchTree.Proofs.Number.Nearest
import MatchTree.Proofs.Number.Range

/-!
Seventeen digits suffice for a double.

Two doubles are apart by a `2 ^ 53`rd part of either at least. The nearest decimal of seventeen
digits is off by a `2 * 10 ^ 16`th part at most, and that is less than half as much, so the decimal
stands for the double. The shortest decimal that does has no more digits.
-/

set_option autoImplicit false
namespace MatchTree

/-! ## How far doubles are apart -/

/-- A coefficient that counts other units than a double is apart from it by a part of it. -/
theorem Finite.gap (x : Finite) {coefficient exponent : Nat} (small : coefficient ≤ 2 ^ 53)
    (other : coefficient * 2 ^ exponent ≠ x.magnitude) :
    x.magnitude ≤
      2 ^ 53 * (((coefficient * 2 ^ exponent : Nat) : Int) - x.magnitude).natAbs := by
  obtain ⟨_, digits, place, bound, _, normal⟩ := x
  simp only [magnitude] at *
  obtain high | low := Nat.lt_or_ge exponent place
  · -- the double is a multiple of twice the last place, and `2 ^ 53` of these or more
    obtain ⟨shift, rfl⟩ := Nat.exists_eq_add_of_le high
    have doubled : digits * 2 ^ (exponent + 1 + shift) =
        2 * (digits * 2 ^ shift) * 2 ^ exponent := by
      rw [Nat.pow_add, Nat.pow_succ]
      ac_rfl
    have many : 2 ^ 52 ≤ digits * 2 ^ shift :=
      Nat.le_trans (normal.resolve_left (by omega)) (Nat.le_mul_of_pos_right _ (Nat.two_pow_pos _))
    rw [doubled] at other ⊢
    generalize digits * 2 ^ shift = half at *
    have apart : coefficient ≠ 2 * half := fun same => other (same ▸ rfl)
    have few : 2 * half ≤ 2 ^ 53 * (2 * half - coefficient) := by omega
    have scaled := Nat.mul_le_mul_right (2 ^ exponent) few
    rw [Nat.mul_assoc (2 ^ 53), Nat.sub_mul] at scaled
    omega
  · -- both are multiples of the last place of the double
    obtain ⟨shift, rfl⟩ := Nat.exists_eq_add_of_le low
    have multiple : coefficient * 2 ^ (place + shift) = coefficient * 2 ^ shift * 2 ^ place := by
      rw [Nat.pow_add, Nat.mul_assoc, Nat.mul_comm (2 ^ shift)]
    rw [multiple] at other ⊢
    generalize coefficient * 2 ^ shift = n at *
    have whole := Nat.mul_le_mul_right (2 ^ place) (Nat.le_of_lt bound)
    obtain less | same | more := Nat.lt_trichotomy n digits
    · have apart := Nat.mul_le_mul_right (2 ^ place) less
      rw [Nat.succ_mul] at apart
      omega
    · exact absurd (same ▸ rfl) other
    · have apart := Nat.mul_le_mul_right (2 ^ place) more
      rw [Nat.succ_mul] at apart
      omega

namespace Double

/-- What is closer to a double than half a gap is rounded to it. -/
theorem nearest_eq_of_near (x : Finite) {u d : Nat} (positive : 0 < d)
    (near : 2 ^ 54 * ((u : Int) - (x.magnitude * d : Nat)).natAbs < x.magnitude * d) :
    nearest u d = x.magnitude := by
  by_contra other
  have gap := Nat.mul_le_mul_right d (x.gap (rounded_le positive) other)
  obtain ⟨closer, _⟩ := nearest_prefers u positive x
  have scaled : (((nearest u d : Nat) : Int) - x.magnitude).natAbs * d =
      (((nearest u d * d : Nat) : Int) - (x.magnitude * d : Nat)).natAbs := by
    rw [Int.natCast_mul, Int.natCast_mul, ← Int.sub_mul, Int.natAbs_mul, Int.natAbs_natCast]
  rw [Nat.mul_assoc, ← nearest, scaled] at gap
  omega

theorem ofRatio_eq_of_near (x : Finite) {n d : Nat} (positive : 0 < d)
    (near : 2 ^ 54 * (((n * 2 ^ 1074 : Nat) : Int) - (x.magnitude * d : Nat)).natAbs <
      x.magnitude * d) : ofRatio x.negative n d = .finite x := by
  have same := nearest_eq_of_near x positive near
  obtain ⟨y, made⟩ := (exists_ofRatio_iff x.negative positive).mpr (same ▸ x.magnitude_le)
  obtain ⟨sign, magnitude⟩ := magnitude_of_ofRatio made
  rw [made, Finite.eq_of_magnitude sign (magnitude.trans same)]

end Double

/-! ## Distances of fractions -/

/-- How far two fractions are apart, in parts of both denominators. -/
theorem abs_div_sub_div_mul (n m : ℕ) {d e : ℕ} (left : 0 < d) (right : 0 < e) :
    |(n : ℚ) / d - m / e| * (e * d) = (((n * e : ℕ) : ℤ) - (m * d : ℕ)).natAbs := by
  have whole : (0 : ℚ) < d := Nat.cast_pos.mpr left
  have part : (0 : ℚ) < e := Nat.cast_pos.mpr right
  have area : (0 : ℚ) < e * d := mul_pos part whole
  have difference : (n : ℚ) / d - m / e = (n * e - m * d) / (e * d) := by field_simp
  rw [difference, abs_div, abs_of_pos area, div_mul_cancel₀ _ area.ne', Nat.cast_natAbs,
    Int.cast_abs]
  push_cast
  rfl

/-- Fractions that are close are so without their denominators. -/
theorem near_of_close {n m d e : ℕ} (left : 0 < d) (right : 0 < e)
    (close : 2 ^ 54 * |(n : ℚ) / d - m / e| < m / e) :
    2 ^ 54 * (((n * e : ℕ) : ℤ) - (m * d : ℕ)).natAbs < m * d := by
  have part : (0 : ℚ) < e := Nat.cast_pos.mpr right
  have area : (0 : ℚ) < e * d := mul_pos part (Nat.cast_pos.mpr left)
  have parts : (m : ℚ) / e * (e * d) = m * d := by field_simp
  have scaled := mul_lt_mul_of_pos_right close area
  rw [mul_assoc, abs_div_sub_div_mul n m left right, parts] at scaled
  exact_mod_cast scaled

namespace Finite
variable (x : Finite)

/-- The number itself, without its sign. -/
def size : ℚ := x.magnitude / 2 ^ 1074

theorem size_eq : x.size = x.magnitude / (2 ^ 1074 : ℕ) := by
  simp only [size, Nat.cast_pow, Nat.cast_ofNat]

/-- What is closer to a double than half a gap is rounded to it. -/
theorem ofRatio_eq_of_close {n d : Nat} (positive : 0 < d)
    (close : 2 ^ 54 * |(n : ℚ) / d - x.size| < x.size) :
    Double.ofRatio x.negative n d = .finite x := by
  rw [size_eq] at close
  exact Double.ofRatio_eq_of_near x positive (near_of_close positive (Nat.two_pow_pos 1074) close)

end Finite

/-- The number that a decimal is, without its sign. -/
def Decimal.size (d : Decimal) : ℚ := d.coefficient * 10 ^ d.exponent

theorem Decimal.size_eq (d : Decimal) : d.size =
    (d.coefficient * 10 ^ d.exponent.toNat : ℕ) / (10 ^ (-d.exponent).toNat : ℕ) := by
  obtain ⟨_, coefficient, exponent⟩ := d
  cases exponent with
  | ofNat up => simp [size]
  | negSucc down => simp [size, zpow_negSucc, div_eq_mul_inv]

namespace Finite
variable (x : Finite)

theorem toDouble_of_close {d : Decimal} (sign : d.negative = x.negative)
    (nonzero : d.coefficient ≠ 0) (low : -330 ≤ d.top) (high : d.top ≤ 310)
    (close : 2 ^ 54 * |d.size - x.size| < x.size) : d.toDouble = .finite x := by
  rw [Decimal.toDouble_eq, if_neg (not_or.mpr ⟨nonzero, Int.not_lt.mpr low⟩),
    if_neg (Int.not_lt.mpr high), sign]
  rw [Decimal.size_eq] at close
  exact x.ofRatio_eq_of_close (Nat.pow_pos (by decide)) close

end Finite

/-! ## The first digit -/

theorem pow_digitCount_le {n : Nat} (nonzero : n ≠ 0) : 10 ^ (digitCount n - 1) ≤ n := by
  by_contra less
  have few := digitCount_le_iff.mpr (Nat.not_le.mp less)
  have zero : digitCount n ≤ 0 := by omega
  rw [digitCount_le_iff] at zero
  omega

/-- A number lies between two powers of ten, which its digits tell. -/
theorem digitCount_bounds {n : Nat} (nonzero : n ≠ 0) :
    (10 : ℚ) ^ ((digitCount n : ℤ) - 1) ≤ n ∧ (n : ℚ) < 10 ^ (digitCount n : ℤ) := by
  have some : digitCount n ≠ 0 := fun zero => by
    have := digitCount_le_iff.mp (Nat.le_of_eq zero)
    omega
  have least : (digitCount n : ℤ) - 1 = ((digitCount n - 1 : ℕ) : ℤ) := by omega
  rw [least, zpow_natCast, zpow_natCast]
  constructor
  · exact_mod_cast pow_digitCount_le nonzero
  · exact_mod_cast digitCount_le_iff.mp (Nat.le_refl (digitCount n))

namespace Finite
variable (x : Finite)

theorem leadingPlace_spec (nonzero : x.magnitude ≠ 0) :
    (10 : ℚ) ^ x.leadingPlace ≤ x.size ∧ x.size < 10 ^ (x.leadingPlace + 1) := by
  unfold leadingPlace
  extract_lets scale guess reached
  have some : scale ≠ 0 := (Nat.two_pow_pos 1074).ne'
  have size : x.size = x.magnitude / scale := x.size_eq
  -- the argument is one for every scale, and so large a power is not looked at
  clear_value scale
  obtain ⟨least, most⟩ := digitCount_bounds nonzero
  obtain ⟨scaleLeast, scaleMost⟩ := digitCount_bounds some
  have positive : (0 : ℚ) < scale := Nat.cast_pos.mpr (Nat.pos_of_ne_zero some)
  rw [size]
  have above : (x.magnitude : ℚ) / scale < 10 ^ (guess + 1) := by
    rw [div_lt_iff₀ positive]
    calc (x.magnitude : ℚ) < 10 ^ (digitCount x.magnitude : ℤ) := most
      _ = 10 ^ (guess + 1) * 10 ^ ((digitCount scale : ℤ) - 1) := by
        rw [← zpow_add₀ (by norm_num)]; congr 1; omega
      _ ≤ 10 ^ (guess + 1) * scale := by gcongr
  have below : 10 ^ (guess - 1) < (x.magnitude : ℚ) / scale := by
    rw [lt_div_iff₀ positive]
    calc (10 : ℚ) ^ (guess - 1) * scale < 10 ^ (guess - 1) * 10 ^ (digitCount scale : ℤ) := by
          gcongr
      _ = 10 ^ ((digitCount x.magnitude : ℤ) - 1) := by
        rw [← zpow_add₀ (by norm_num)]; congr 1; omega
      _ ≤ x.magnitude := least
  have told : reached = true ↔ (10 : ℚ) ^ guess ≤ x.magnitude / scale := by
    rw [le_div_iff₀ positive]
    simp only [reached]
    clear_value guess
    cases guess with
    | ofNat up =>
      rw [Int.ofNat_eq_natCast, zpow_natCast, mul_comm, decide_eq_true_eq]
      exact_mod_cast Iff.rfl
    | negSucc down =>
      rw [zpow_negSucc, inv_mul_le_iff₀ (by positivity), mul_comm, decide_eq_true_eq]
      exact_mod_cast Iff.rfl
  split
  case isTrue yes => exact ⟨told.mp yes, above⟩
  case isFalse no =>
    rw [sub_add_cancel]
    exact ⟨below.le, not_le.mp (mt told.mpr no)⟩

/-- Where the first digit of a double may stand. -/
theorem leadingPlace_bounds (nonzero : x.magnitude ≠ 0) :
    -324 ≤ x.leadingPlace ∧ x.leadingPlace ≤ 308 := by
  have scale : digitCount (2 ^ 1074) = 324 := by
    apply Nat.le_antisymm
    · rw [digitCount_le_iff]; decide +kernel
    · by_contra few
      have := digitCount_le_iff.mp (Nat.le_of_lt_succ (Nat.lt_of_not_le few))
      exact absurd this (by decide +kernel)
  have few : digitCount x.magnitude ≤ 632 := by
    rw [digitCount_le_iff]
    refine Nat.lt_of_le_of_lt x.magnitude_le ?_
    decide +kernel
  have many : digitCount x.magnitude ≠ 0 := fun zero => by
    have := digitCount_le_iff.mp (Nat.le_of_eq zero)
    omega
  unfold leadingPlace
  extract_lets scale' guess reached
  have : guess = digitCount x.magnitude - 324 := by simp only [guess, scale', scale]; rfl
  split <;> omega

/-- In the place of its last digit a double is counted by so many digits. -/
theorem size_div_lt (digits : ℕ) :
    x.size / 10 ^ (x.leadingPlace + 1 - digits) < 10 ^ digits := by
  by_cases zero : x.magnitude = 0
  · rw [size_eq, zero, Nat.cast_zero, zero_div, zero_div]
    positivity
  · rw [div_lt_iff₀ (by positivity), ← zpow_natCast, ← zpow_add₀ (by norm_num), add_sub_cancel]
    exact (x.leadingPlace_spec zero).2

end Finite

/-! ## Neighbours -/

/-- An integer that a fraction is rounded to is within a half of it. -/
theorem abs_roundHalfEven_sub_le (n : Nat) {d : Nat} (positive : 0 < d) :
    |(roundHalfEven n d : ℚ) - n / d| ≤ 1 / 2 := by
  have whole : (0 : ℚ) < d := Nat.cast_pos.mpr positive
  have distance := abs_div_sub_div_mul (roundHalfEven n d) n Nat.one_pos positive
  rw [Nat.cast_one, div_one, mul_one, Nat.mul_one] at distance
  have gap : (2 : ℚ) * (((roundHalfEven n d * d : ℕ) : ℤ) - n).natAbs ≤ d := by
    exact_mod_cast (roundHalfEven_gap positive n).1
  refine le_of_mul_le_mul_right ?_ whole
  rw [distance]
  linarith

theorem roundHalfEven_cases (n d : Nat) :
    roundHalfEven n d = n / d ∨ roundHalfEven n d = n / d + 1 := by
  simp only [roundHalfEven]
  split <;> simp

namespace Finite
variable (x : Finite)

/-- The neighbours in a place, from the fraction that counts it. -/
theorem neighbours_eq (place : ℤ) : ∃ n d : ℕ, 0 < d ∧ x.size / 10 ^ place = n / d ∧
    x.neighbours place = if roundHalfEven n d = n / d then
      [⟨x.negative, n / d, place⟩, ⟨x.negative, n / d + 1, place⟩]
    else [⟨x.negative, n / d + 1, place⟩, ⟨x.negative, n / d, place⟩] := by
  cases place with
  | ofNat up =>
    have positive : 0 < 10 ^ up := Nat.pow_pos (by decide)
    refine ⟨x.magnitude, 2 ^ 1074 * 10 ^ up, Nat.mul_pos (Nat.two_pow_pos 1074) positive, ?_,
      by rw [neighbours]⟩
    simp only [size_eq, Int.ofNat_eq_natCast, zpow_natCast, div_div, Nat.cast_mul, Nat.cast_pow,
      Nat.cast_ofNat]
  | negSucc down =>
    refine ⟨x.magnitude * 10 ^ (down + 1), 2 ^ 1074, Nat.two_pow_pos _, ?_, by rw [neighbours]⟩
    simp only [size_eq, zpow_negSucc, div_inv_eq_mul, Nat.cast_mul, Nat.cast_pow, Nat.cast_ofNat,
      div_mul_eq_mul_div]

/-- The neighbours in a place count it so many times, and the first is within half a place. -/
theorem neighbours_spec (place : ℤ) :
    (∀ d ∈ x.neighbours place, d.negative = x.negative ∧ d.exponent = place ∧
      (d.coefficient : ℚ) ≤ x.size / 10 ^ place + 1) ∧
    ∃ d rest, x.neighbours place = d :: rest ∧
      |(d.coefficient : ℚ) - x.size / 10 ^ place| ≤ 1 / 2 := by
  obtain ⟨n, d, positive, fraction, listed⟩ := x.neighbours_eq place
  have below : ((n / d : ℕ) : ℚ) ≤ n / d := Nat.cast_div_le
  have near := abs_roundHalfEven_sub_le n positive
  rw [fraction, listed]
  constructor
  · intro choice member
    have either : choice = ⟨x.negative, n / d, place⟩ ∨
        choice = ⟨x.negative, n / d + 1, place⟩ := by
      split at member <;> simpa [or_comm] using member
    obtain rfl | rfl := either
    · exact ⟨rfl, rfl, below.trans (by linarith)⟩
    · exact ⟨rfl, rfl, by push_cast; linarith⟩
  · obtain down | up := roundHalfEven_cases n d
    · rw [down] at near
      rw [if_pos down]
      exact ⟨⟨x.negative, n / d, place⟩, _, rfl, near⟩
    · rw [up] at near
      rw [if_neg (by omega)]
      exact ⟨⟨x.negative, n / d + 1, place⟩, _, rfl, near⟩

/-! ## Seventeen digits -/

theorem ten_pow_sixteen (place : ℤ) : (10 : ℚ) ^ 16 * 10 ^ (place + 1 - 17) = 10 ^ place := by
  rw [← zpow_natCast, ← zpow_add₀ (by norm_num)]
  congr 1
  omega

/-- Seventeen digits are enough, and of these the nearest are taken. -/
theorem exists_decimalOfLength (nonzero : x.magnitude ≠ 0) :
    ∃ d, x.decimalOfLength? 17 = some d ∧
      |(d.coefficient : ℚ) - x.size / 10 ^ (x.leadingPlace + 1 - 17)| ≤ 1 / 2 := by
  obtain ⟨each, d, rest, listed, near⟩ := x.neighbours_spec (x.leadingPlace + 1 - 17)
  obtain ⟨sign, place, most⟩ := each d (listed ▸ List.mem_cons_self)
  obtain ⟨lowest, highest⟩ := x.leadingPlace_bounds nonzero
  have unit : (0 : ℚ) < 10 ^ (x.leadingPlace + 1 - 17) := by positivity
  have first : 10 ^ 16 * 10 ^ (x.leadingPlace + 1 - 17) ≤ x.size := by
    rw [ten_pow_sixteen]
    exact (x.leadingPlace_spec nonzero).1
  have least : 10 ^ 16 ≤ x.size / 10 ^ (x.leadingPlace + 1 - 17) := (le_div_iff₀ unit).mpr first
  have below := x.size_div_lt 17
  rw [Nat.cast_ofNat] at below
  obtain ⟨left, right⟩ := abs_le.mp near
  -- so it has seventeen digits, or eighteen if the last is carried all the way
  have large : 10 ^ 16 ≤ d.coefficient := by
    have : (10 : ℚ) ^ 16 < d.coefficient + 1 := by linarith
    exact Nat.le_of_lt_succ (by exact_mod_cast this)
  have small : d.coefficient < 10 ^ 18 := by
    have : (d.coefficient : ℚ) < 10 ^ 18 := by linarith
    exact_mod_cast this
  have digits : 17 ≤ digitCount d.coefficient ∧ digitCount d.coefficient ≤ 18 := by
    refine ⟨?_, digitCount_le_iff.mpr small⟩
    by_contra few
    have := digitCount_le_iff.mp (Nat.le_of_lt_succ (Nat.lt_of_not_le few))
    omega
  have close : 2 ^ 54 * |d.size - x.size| < x.size := by
    have distance : |d.size - x.size| = |(d.coefficient : ℚ) -
        x.size / 10 ^ (x.leadingPlace + 1 - 17)| * 10 ^ (x.leadingPlace + 1 - 17) := by
      rw [Decimal.size, place, ← abs_of_pos unit, ← abs_mul, abs_of_pos unit, sub_mul,
        div_mul_cancel₀ _ unit.ne']
    calc 2 ^ 54 * |d.size - x.size| ≤ 2 ^ 54 * (1 / 2 * 10 ^ (x.leadingPlace + 1 - 17)) := by
          rw [distance]; gcongr
      _ < 10 ^ 16 * 10 ^ (x.leadingPlace + 1 - 17) := by
          rw [← mul_assoc]; gcongr; norm_num
      _ ≤ x.size := first
  have reads : x.ReadsBack d := by
    refine x.toDouble_of_close sign (by omega) ?_ ?_ close
    · rw [Decimal.top, place]; omega
    · rw [Decimal.top, place]; omega
  refine ⟨d, ?_, near⟩
  rw [decimalOfLength?, Nat.cast_ofNat, listed]
  exact List.find?_cons_of_pos (decide_eq_true reads)

theorem decimalOfLength?_le {digits : ℕ} {d : Decimal}
    (found : x.decimalOfLength? digits = some d) : d.coefficient ≤ 10 ^ digits := by
  obtain ⟨_, _, most⟩ := (x.neighbours_spec _).1 d (List.mem_of_find?_eq_some found)
  have below := x.size_div_lt digits
  have less : (d.coefficient : ℚ) < 10 ^ digits + 1 := by linarith
  exact Nat.le_of_lt_succ (by exact_mod_cast less)

/-- The search for the shortest decimal ends with seventeen digits at the latest. -/
theorem exists_length (nonzero : x.magnitude ≠ 0) :
    ∃ digits ≤ 17, x.decimalOfLength? digits = some x.shortest := by
  rw [shortest]
  cases found : (List.range 17).findSome? fun n => x.decimalOfLength? (n + 1) with
  | none =>
    obtain ⟨d, last, _⟩ := x.exists_decimalOfLength nonzero
    have tried := List.findSome?_eq_none_iff.mp found 16 (by decide)
    exact absurd (last.symm.trans tried) (Option.some_ne_none d)
  | some d =>
    obtain ⟨n, member, tried⟩ := List.exists_of_findSome?_eq_some found
    exact ⟨n + 1, List.mem_range.mp member, tried⟩

theorem shortest_of_zero (zero : x.magnitude = 0) : x.shortest.coefficient = 0 := by
  have same : x = .zero x.negative := eq_of_magnitude rfl zero
  rw [same]
  cases x.negative <;> decide +kernel

/-- The shortest decimal of a double has seventeen digits at most, zeros at the end apart. -/
theorem shortest_coefficient_le : x.shortest.coefficient ≤ 10 ^ 17 := by
  by_cases zero : x.magnitude = 0
  · rw [x.shortest_of_zero zero]
    exact Nat.zero_le _
  · obtain ⟨digits, few, found⟩ := x.exists_length zero
    exact (x.decimalOfLength?_le found).trans (Nat.pow_le_pow_right (by decide) few)

end Finite
end MatchTree
