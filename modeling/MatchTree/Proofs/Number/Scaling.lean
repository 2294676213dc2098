import Mathlib.Algebra.Order.Field.Power
import MatchTree.Number.Scaling
import MatchTree.Proofs.Number.Shortest

/-!
What arithmetic on doubles makes of a decimal.

A quotient by a power of ten is always a double. A product may be past the largest, but with
eighteen digits in front no decimal that is rounded to a double comes so far. With a coefficient and
a power of ten that are doubles themselves, the product and the quotient are rounded once, and that
is the nearest double.
-/

set_option autoImplicit false
namespace MatchTree

namespace Double

/-- The least number that is rounded past the largest double. -/
def bound : Nat := 2 ^ 1024 - 2 ^ 970

theorem inRange_limits : InRange (10 ^ 308) 1 ∧ ¬ InRange bound 1 := by
  rw [InRange, InRange]
  decide +kernel

theorem InRange.lt_bound {n : Nat} (range : InRange n 1) : n < bound := by
  by_contra large
  refine inRange_limits.2 (range.of_le Nat.one_pos Nat.one_pos ?_)
  exact Nat.mul_le_mul_right 1 (Nat.not_lt.mp large)

theorem inRange_of_le {n : Nat} (small : n ≤ 10 ^ 308) : InRange n 1 :=
  inRange_limits.1.of_le Nat.one_pos Nat.one_pos (Nat.mul_le_mul_right 1 small)

/-- An integer that is a double is rounded to it. -/
theorem exists_ofRatio_exact (negative : Bool) {n : Nat} (small : n ≤ 2 ^ 53) {shift : Nat}
    (low : shift ≤ 970) : ∃ x, ofRatio negative (n * 2 ^ shift) 1 = .finite x ∧
      x.negative = negative ∧ x.magnitude = n * 2 ^ shift * 2 ^ 1074 := by
  obtain ⟨x, rfl, size⟩ := Finite.exists_of_magnitude_le negative small (e := shift + 1074)
    (by omega) (by omega)
  rw [Nat.pow_add, ← Nat.mul_assoc] at size
  refine ⟨x, ?_, rfl, size⟩
  rw [← x.ofRatio_magnitude]
  exact ofRatio_congr _ Nat.one_pos (Nat.two_pow_pos 1074) (size.symm.trans (Nat.mul_one _).symm)

theorem ofRatio_zero (negative : Bool) {d : Nat} (positive : 0 < d) :
    ofRatio negative 0 d = .finite (.zero negative) := by
  have none : (Finite.zero negative).magnitude = 0 := rfl
  have made := (Finite.zero negative).ofRatio_magnitude
  rw [none] at made
  rw [← made]
  exact ofRatio_congr negative positive (Nat.two_pow_pos 1074) (by rw [Nat.zero_mul, Nat.zero_mul])

theorem finite?_eq_some_iff {a : Double} {x : Finite} : a.finite? = some x ↔ a = .finite x := by
  cases a <;> simp [finite?]

end Double

namespace Finite

theorem exists_powerOfTen {n : Nat} (small : n ≤ 308) : ∃ power, powerOfTen? n = some power ∧
    power.negative = false ∧ power.magnitude = Double.nearest (10 ^ n * 2 ^ 1074) 1 := by
  have range := Double.inRange_of_le (Nat.pow_le_pow_right (n := 10) (by decide) small)
  obtain ⟨power, made⟩ := (Double.exists_ofRatio_iff false Nat.one_pos).mpr range
  refine ⟨power, ?_, Double.magnitude_of_ofRatio made⟩
  rw [powerOfTen?, if_pos small, made]
  rfl

theorem exists_powerOfTen_exact {n : Nat} (small : n ≤ 22) : ∃ power, powerOfTen? n = some power ∧
    power.negative = false ∧ power.magnitude = 10 ^ n * 2 ^ 1074 := by
  -- but for a power of two it is a power of five, and small
  have parts : 10 ^ n = 5 ^ n * 2 ^ n := (Nat.mul_pow 5 2 n)
  have few : 5 ^ n ≤ 2 ^ 53 :=
    Nat.le_trans (Nat.pow_le_pow_right (by decide) small) (by decide)
  have low : n ≤ 970 := small.trans (by decide)
  obtain ⟨power, made, sign, size⟩ := Double.exists_ofRatio_exact false few low
  rw [← parts] at made size
  refine ⟨power, ?_, sign, size⟩
  rw [powerOfTen?, if_pos (by omega), made]
  rfl

/-! ## Quotients -/

section
variable (x : Finite)

theorem exists_dividedBy {power : Finite} (large : 2 ^ 1074 ≤ power.magnitude) :
    ∃ y, x.dividedBy power = .finite y := by
  have positive := (Nat.two_pow_pos 1074).trans_le large
  refine (Double.exists_ofRatio_iff _ positive).mpr ?_
  exact x.inRange.of_le positive (Nat.two_pow_pos 1074) (Nat.mul_le_mul_left _ large)

/-- A power of ten is no less than one. -/
theorem exists_dividedBy_powerOfTen {n : Nat} (small : n ≤ 308) :
    ∃ power y, powerOfTen? n = some power ∧ x.dividedBy power = .finite y := by
  obtain ⟨power, found, _, size⟩ := exists_powerOfTen small
  -- one is a power of ten too, and a greater one is not rounded to less
  obtain ⟨one, _, _, least⟩ := exists_powerOfTen_exact (Nat.zero_le 22)
  have above : Double.nearest one.magnitude 1 ≤ power.magnitude := by
    rw [size, least]
    refine Double.nearest_mono Nat.one_pos (Nat.mul_le_mul_right _ ?_)
    exact Nat.pow_le_pow_right (by decide) (Nat.zero_le n)
  rw [one.nearest_magnitude, least, Nat.pow_zero 10, Nat.one_mul (2 ^ 1074)] at above
  obtain ⟨y, made⟩ := x.exists_dividedBy above
  exact ⟨power, y, found, made⟩

theorem exists_lowerFar (times : Nat) : ∃ y, x.lowerFar? times = some y := by
  induction times generalizing x with
  | zero => exact ⟨x, rfl⟩
  | succ times ih =>
    rw [lowerFar?]
    split
    case isTrue => exact ⟨x, rfl⟩
    case isFalse =>
      obtain ⟨power, y, found, made⟩ := x.exists_dividedBy_powerOfTen (Nat.le_refl 308)
      rw [found, Option.bind_eq_bind, Option.bind_some, made]
      exact ih y

theorem lower?_eq (down : Nat) : x.lower? down =
    (x.lowerFar? ((down - 1) / 308)).bind fun y =>
      (powerOfTen? (down - 308 * ((down - 1) / 308))).bind fun power =>
        (y.dividedBy power).finite? := rfl

/-- What is divided by a power of ten stays within the range of the doubles. -/
theorem exists_lower (down : Nat) : ∃ y, x.lower? down = some y := by
  have rest : down - 308 * ((down - 1) / 308) ≤ 308 := by omega
  obtain ⟨far, reached⟩ := x.exists_lowerFar ((down - 1) / 308)
  obtain ⟨power, y, found, made⟩ := far.exists_dividedBy_powerOfTen rest
  refine ⟨y, ?_⟩
  rw [lower?_eq, reached, Option.bind_some, found, Option.bind_some, made]
  rfl

end

/-! ## Products -/

theorem exists_times_of_le {x y power higher : Finite} (le : x.magnitude ≤ y.magnitude)
    (lower : power.magnitude ≤ higher.magnitude) (made : ∃ z, y.times higher = .finite z) :
    ∃ z, x.times power = .finite z := by
  have positive := Nat.two_pow_pos 2148
  rw [times, Double.exists_ofRatio_iff _ positive] at *
  exact made.of_le positive positive (Nat.mul_le_mul_right _ (Nat.mul_le_mul le lower))

end Finite

namespace Decimal
open Double (bound InRange)

theorem scaled?_ofNat (negative : Bool) (n up : Nat) : scaled? ⟨negative, n, .ofNat up⟩ =
    (Double.ofRatio negative n 1).finite?.bind fun x => x.raise? up := rfl

theorem scaled?_negSucc (negative : Bool) (n down : Nat) : scaled? ⟨negative, n, .negSucc down⟩ =
    (Double.ofRatio negative n 1).finite?.bind fun x => x.lower? (down + 1) := rfl

theorem size_ofNat (negative : Bool) (n up : Nat) :
    size ⟨negative, n, .ofNat up⟩ = (n * 10 ^ up : ℕ) := by
  rw [size, Int.ofNat_eq_natCast, zpow_natCast, Nat.cast_mul, Nat.cast_pow, Nat.cast_ofNat]

/-- With a negative power of ten there is always a double. -/
theorem exists_scaled_negSucc (negative : Bool) {n : Nat} (small : n ≤ 10 ^ 308) (down : Nat) :
    ∃ x, scaled? ⟨negative, n, .negSucc down⟩ = some x := by
  have range := Double.inRange_of_le small
  obtain ⟨x, made⟩ := (Double.exists_ofRatio_iff negative Nat.one_pos).mpr range
  rw [scaled?_negSucc, made, Double.finite?, Option.bind_some]
  exact x.exists_lower (down + 1)

/-- What is rounded to a double is below the bound. -/
theorem lt_bound_of_toDouble {negative : Bool} {n up : Nat} {x : Finite}
    (near : toDouble ⟨negative, n, .ofNat up⟩ = .finite x) : n * 10 ^ up < bound := by
  obtain rfl | nonzero := Nat.eq_zero_or_pos n
  · rw [Nat.zero_mul]
    exact (Double.inRange_of_le (Nat.zero_le _)).lt_bound
  · -- without a fraction the decimal is not below the doubles, and if it is not above them either
    -- it is rounded as an integer
    simp only [toDouble] at near
    split at near
    case isTrue few =>
      rw [Int.ofNat_eq_natCast] at few
      omega
    case isFalse =>
      split at near
      case isTrue => contradiction
      case isFalse => exact ((Double.exists_ofRatio_iff negative Nat.one_pos).mp ⟨x, near⟩).lt_bound

end Decimal

/-! ## The largest double -/

namespace Finite
variable (x : Finite)

/-- The decimal that the largest double is written as. -/
abbrev greatest : Nat := 17976931348623157 * 10 ^ 292

/-- How it compares with powers of ten, with the bound by its first sixteen digits, and with the
largest double by all seventeen. -/
theorem greatest_limits : 10 ^ 308 ≤ greatest ∧ greatest < 10 ^ 309 ∧
    1797693134862315 * 10 ^ 293 ≤ greatest ∧ Double.bound ≤ 1797693134862316 * 10 ^ 293 ∧
    2 * Double.largest < 35953862697246315 * (10 ^ 292 * 2 ^ 1074) := by
  decide +kernel

/-- What is no more than a half past a fraction, without the denominators. -/
theorem two_mul_le_of_near {n m scale place : ℕ} (left : 0 < scale) (right : 0 < place)
    (near : (n : ℚ) - m / scale / place ≤ 1 / 2) :
    2 * n * (place * scale) ≤ 2 * m + place * scale := by
  have scaled : (0 : ℚ) < scale := Nat.cast_pos.mpr left
  have placed : (0 : ℚ) < place := Nat.cast_pos.mpr right
  have least : (n : ℚ) - 1 / 2 ≤ m / scale / place := by linarith
  rw [le_div_iff₀ placed, le_div_iff₀ scaled] at least
  have whole : (2 : ℚ) * n * (place * scale) ≤ 2 * m + place * scale := by linarith
  exact_mod_cast whole

/-- The first seventeen digits of a double are no more than those of the largest. -/
theorem le_of_near {n : Nat} (near : |(n : ℚ) - x.size / 10 ^ (292 : ℤ)| ≤ 1 / 2) :
    n ≤ 17976931348623157 := by
  by_contra large
  have place : (10 : ℚ) ^ (292 : ℤ) = (10 ^ 292 : ℕ) := by
    simp only [Nat.cast_pow, Nat.cast_ofNat]
    exact zpow_natCast 10 292
  rw [size_eq, place] at near
  have past := two_mul_le_of_near (Nat.two_pow_pos 1074) (Nat.pow_pos (by decide)) (abs_le.mp near).2
  obtain ⟨_, _, _, _, less⟩ := greatest_limits
  have most := x.magnitude_le
  have many : 35953862697246316 ≤ 2 * n := by omega
  generalize 10 ^ 292 * 2 ^ 1074 = unit at *
  have least := Nat.mul_le_mul_right unit many
  generalize 2 * n * unit = units at *
  omega

/-- In the place of one of its first sixteen digits, what is rounded to a double is no more than
the largest. -/
theorem le_greatest_of_toDouble {negative : Bool} {n more : Nat}
    (near : Decimal.toDouble ⟨negative, n, .ofNat (293 + more)⟩ = .finite x) :
    n * 10 ^ (293 + more) ≤ greatest := by
  have below := Decimal.lt_bound_of_toDouble near
  obtain ⟨_, _, within, limit, _⟩ := greatest_limits
  have shift : n * 10 ^ (293 + more) = n * 10 ^ more * 10 ^ 293 := by
    rw [Nat.pow_add, Nat.mul_comm (10 ^ 293), Nat.mul_assoc]
  rw [shift] at below ⊢
  have few : n * 10 ^ more ≤ 1797693134862315 := by
    by_contra many
    have past := Nat.mul_le_mul_right (10 ^ 293) (Nat.lt_of_not_le many)
    exact absurd (past.trans_lt below) (Nat.not_lt.mpr limit)
  exact (Nat.mul_le_mul_right _ few).trans within

/-- No shortest decimal is past that of the largest double. -/
theorem shortest_size_le : x.shortest.size ≤ (greatest : ℕ) := by
  by_cases zero : x.magnitude = 0
  · rw [Decimal.size, x.shortest_of_zero zero, Nat.cast_zero, zero_mul]
    exact Nat.cast_nonneg greatest
  have reads : x.shortest.toDouble = .finite x := x.shortest_readsBack
  obtain ⟨digits, few, found⟩ := x.exists_length zero
  obtain ⟨nearest, last, near⟩ := x.exists_decimalOfLength zero
  obtain ⟨_, high⟩ := x.leadingPlace_bounds zero
  obtain ⟨_, place, _⟩ := (x.neighbours_spec _).1 _ (List.mem_of_find?_eq_some found)
  have most := x.decimalOfLength?_le found
  generalize x.shortest = d at *
  -- only with a first digit in the last place of all is there anything to compare
  obtain less | full := Int.lt_or_eq_of_le high
  · have range := greatest_limits.1
    have whole : (d.coefficient : ℚ) ≤ 10 ^ (digits : ℤ) := by
      rw [zpow_natCast]
      exact_mod_cast most
    calc d.size ≤ 10 ^ (digits : ℤ) * 10 ^ (x.leadingPlace + 1 - digits) := by
          rw [Decimal.size, place]
          gcongr
      _ = 10 ^ (x.leadingPlace + 1) := by
          rw [← zpow_add₀ (by norm_num), add_sub_cancel]
      _ ≤ 10 ^ (308 : ℤ) := zpow_le_zpow_right₀ (by norm_num) (by omega)
      _ ≤ (greatest : ℕ) := by exact_mod_cast range
  obtain ⟨negative, n, exponent⟩ := d
  rw [full] at place near
  obtain rfl : exponent = 308 + 1 - digits := place
  -- of seventeen digits the nearest are taken, and fewer are in the place of the first sixteen
  obtain rfl | short := Nat.eq_or_lt_of_le few
  · obtain rfl : nearest = ⟨negative, n, 292⟩ := Option.some.inj (last.symm.trans found)
    have whole := Nat.mul_le_mul_right (10 ^ 292) (x.le_of_near near)
    exact (Decimal.size_ofNat negative n 292).trans_le (Nat.cast_le.mpr whole)
  · obtain ⟨more, exponent⟩ : ∃ more, (308 + 1 - digits : ℤ) = .ofNat (293 + more) :=
      ⟨16 - digits, by rw [Int.ofNat_eq_natCast]; omega⟩
    rw [exponent] at reads ⊢
    have whole := x.le_greatest_of_toDouble reads
    exact (Decimal.size_ofNat negative n _).trans_le (Nat.cast_le.mpr whole)

end Finite

namespace Decimal

/-- What is less in both parts has a double too. -/
theorem exists_scaled_of_le (negative : Bool) {n most up highest : Nat} (few : n ≤ most)
    (low : up ≤ highest) (high : highest ≤ 308)
    (made : (scaled? ⟨false, most, .ofNat highest⟩).isSome = true) :
    ∃ x, scaled? ⟨negative, n, .ofNat up⟩ = some x := by
  obtain ⟨power, found, _, size⟩ := Finite.exists_powerOfTen (low.trans high)
  obtain ⟨higher, above, _, size'⟩ := Finite.exists_powerOfTen high
  obtain ⟨z, made⟩ := Option.isSome_iff_exists.mp made
  rw [scaled?_ofNat] at made ⊢
  obtain ⟨y, whole, product⟩ := Option.bind_eq_some_iff.mp made
  simp only [Finite.raise?, above, found, Double.finite?_eq_some_iff] at whole product ⊢
  have range := ((Double.exists_ofRatio_iff false Nat.one_pos).mp ⟨y, whole⟩).of_le Nat.one_pos
    Nat.one_pos (Nat.mul_le_mul_right 1 few)
  obtain ⟨x, written⟩ := (Double.exists_ofRatio_iff negative Nat.one_pos).mpr range
  have less : x.magnitude ≤ y.magnitude := by
    rw [(Double.magnitude_of_ofRatio written).2, (Double.magnitude_of_ofRatio whole).2]
    exact Double.nearest_mono Nat.one_pos (Nat.mul_le_mul_right _ few)
  have lower : power.magnitude ≤ higher.magnitude := by
    rw [size, size']
    refine Double.nearest_mono Nat.one_pos (Nat.mul_le_mul_right _ ?_)
    exact Nat.pow_le_pow_right (by decide) low
  obtain ⟨z', product'⟩ := Finite.exists_times_of_le less lower ⟨z, product⟩
  refine ⟨z', ?_⟩
  rw [Double.finite?_eq_some_iff.mpr written, Option.bind_some]
  exact Double.finite?_eq_some_iff.mpr product'

/-- The largest numbers with so many zeros, and few enough digits. -/
theorem isSome_scaled_largest : ∀ more ≤ 18, (scaled? ⟨false,
    min (10 ^ 17) (Finite.greatest / 10 ^ (290 + more)), .ofNat (290 + more)⟩).isSome = true := by
  decide +kernel

/-- With seventeen digits there is always a double, up to the largest. -/
theorem exists_scaled_ofNat (negative : Bool) {n up : Nat} (nonzero : n ≠ 0) (few : n ≤ 10 ^ 17)
    (size : n * 10 ^ up ≤ Finite.greatest) : ∃ x, scaled? ⟨negative, n, .ofNat up⟩ = some x := by
  have low : up ≤ 308 := by
    by_contra high
    have past : 10 ^ 309 ≤ n * 10 ^ up :=
      (Nat.pow_le_pow_right (by decide) (Nat.not_le.mp high)).trans
        (Nat.le_mul_of_pos_left _ (Nat.pos_of_ne_zero nonzero))
    exact absurd (past.trans size) (Nat.not_le.mpr Finite.greatest_limits.2.1)
  -- up to 290 zeros the digits are the bound, and with more the largest double is
  have above : up ≤ 290 + (up - 290) := by omega
  refine exists_scaled_of_le negative (Nat.le_min.mpr ⟨few, ?_⟩) above (by omega)
    (isSome_scaled_largest (up - 290) (by omega))
  obtain less | more := Nat.le_total up 290
  · rw [Nat.sub_eq_zero_of_le less]
    refine few.trans ((Nat.le_div_iff_mul_le (Nat.pow_pos (by decide))).mpr ?_)
    rw [← Nat.pow_add]
    exact (Nat.pow_le_pow_right (by decide) (by decide)).trans Finite.greatest_limits.1
  · rw [Nat.add_sub_cancel' more]
    exact (Nat.le_div_iff_mul_le (Nat.pow_pos (by decide))).mpr size

/-! ## Exact operands -/

/-- A few digits in a place near to one are rounded as a fraction. -/
theorem toDouble_of_small {d : Decimal} (few : d.coefficient ≤ 2 ^ 53) (low : -22 ≤ d.exponent)
    (high : d.exponent ≤ 22) : d.toDouble = .ofRatio d.negative
      (d.coefficient * 10 ^ d.exponent.toNat) (10 ^ (-d.exponent).toNat) := by
  obtain zero | nonzero := Nat.eq_zero_or_pos d.coefficient
  · rw [toDouble_eq, if_pos (.inl zero), zero, Nat.zero_mul]
    exact (Double.ofRatio_zero d.negative (Nat.pow_pos (by decide))).symm
  · have digits : digitCount d.coefficient ≤ 17 := digitCount_le_iff.mpr (few.trans_lt (by decide))
    have least : ¬ d.top < -330 := by rw [top]; omega
    have most : ¬ 310 < d.top := by rw [top]; omega
    rw [toDouble_eq, if_neg (not_or.mpr ⟨nonzero.ne', least⟩), if_neg most]

/-- With exact operands there is one rounding, and it gives the nearest double. -/
theorem scaled?_of_small {d : Decimal} (few : d.coefficient ≤ 2 ^ 53) (low : -22 ≤ d.exponent)
    (high : d.exponent ≤ 22) : d.scaled? = d.toDouble.finite? := by
  rw [toDouble_of_small few low high]
  obtain ⟨negative, n, exponent⟩ := d
  simp only at few low high ⊢
  obtain ⟨x, made, rfl, size⟩ := Double.exists_ofRatio_exact negative few (Nat.zero_le 970)
  rw [Nat.pow_zero 2, Nat.mul_one] at made size
  cases exponent with
  | ofNat up =>
    have near : up ≤ 22 := by
      simp only [Int.ofNat_eq_natCast] at high
      omega
    obtain ⟨power, found, positive, size'⟩ := Finite.exists_powerOfTen_exact near
    have product : x.times power = .ofRatio x.negative (n * 10 ^ up) 1 := by
      rw [Finite.times, positive, Bool.bne_false, size, size']
      refine Double.ofRatio_congr _ (Nat.two_pow_pos 2148) Nat.one_pos ?_
      rw [Nat.mul_one, Nat.mul_mul_mul_comm, ← Nat.pow_add]
    rw [scaled?_ofNat, Double.finite?_eq_some_iff.mpr made, Option.bind_some]
    simp [Finite.raise?, found, product]
  | negSucc down =>
    have near : down + 1 ≤ 22 := by
      simp only [Int.negSucc_eq] at low
      omega
    have whole : (down + 1 - 1) / 308 = 0 := by omega
    obtain ⟨power, found, positive, size'⟩ := Finite.exists_powerOfTen_exact near
    have quotient : x.dividedBy power = .ofRatio x.negative n (10 ^ (down + 1)) := by
      rw [Finite.dividedBy, positive, Bool.bne_false, size, size']
      have tens : 0 < 10 ^ (down + 1) := Nat.pow_pos (by decide)
      refine Double.ofRatio_congr _ (Nat.mul_pos tens (Nat.two_pow_pos 1074)) tens ?_
      rw [Nat.mul_assoc, Nat.mul_comm (10 ^ (down + 1))]
    rw [scaled?_negSucc, Double.finite?_eq_some_iff.mpr made, Option.bind_some, Finite.lower?_eq,
      whole, Finite.lowerFar?, Option.bind_some, Nat.mul_zero, Nat.sub_zero, found,
      Option.bind_some, quotient]
    simp

end Decimal
end MatchTree
