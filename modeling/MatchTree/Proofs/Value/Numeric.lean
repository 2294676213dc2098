import Mathlib.Algebra.Order.Field.Rat
import Mathlib.Algebra.Order.Ring.Abs
import Mathlib.Tactic.FieldSimp
import Mathlib.Tactic.Ring
import MatchTree.Proofs.Number.Nearest
import MatchTree.Proofs.Number.Spelling
import MatchTree.Value.Basic

/-!
The numbers that values count as.

An integer and a decimal that denotes it are rounded alike. So a text counts as the integer that it
spells, with whatever signs, zeros, point and power it spells it, and with white space around.
-/

set_option autoImplicit false
namespace MatchTree

namespace Decimal

/-- The number that is denoted. -/
def toRat (d : Decimal) : ℚ :=
  (if d.negative then -1 else 1) * (d.coefficient * 10 ^ d.exponent)

theorem size_nonneg (d : Decimal) : (0 : ℚ) ≤ d.coefficient * 10 ^ d.exponent :=
  mul_nonneg (Nat.cast_nonneg _) (zpow_nonneg (by decide) _)

theorem abs_toRat (d : Decimal) : |d.toRat| = d.coefficient * 10 ^ d.exponent := by
  rw [toRat, abs_mul, abs_of_nonneg d.size_nonneg]
  split <;> simp

theorem negative_of_toRat {d : Decimal} {i : ℤ} (denotes : d.toRat = i) (nonzero : i ≠ 0) :
    d.negative = decide (i < 0) := by
  have size := d.size_nonneg
  rw [toRat] at denotes
  cases negative : d.negative with
  | true =>
    rw [negative, if_pos rfl, neg_one_mul] at denotes
    have below : (i : ℚ) ≤ 0 := denotes ▸ neg_nonpos_of_nonneg size
    exact (decide_eq_true (lt_of_le_of_ne (by exact_mod_cast below) nonzero)).symm
  | false =>
    rw [negative, if_neg Bool.false_ne_true, one_mul] at denotes
    have above : (0 : ℚ) ≤ i := denotes ▸ size
    exact (decide_eq_false (not_lt_of_ge (by exact_mod_cast above))).symm

/-- How a natural number is split into a coefficient and a power does not matter. -/
theorem toDouble_of_nat {d : Decimal} {n : Nat}
    (size : (d.coefficient : ℚ) * 10 ^ d.exponent = n) :
    d.toDouble = toDouble ⟨d.negative, n, 0⟩ := by
  obtain ⟨negative, coefficient, exponent⟩ := d
  dsimp only at size ⊢
  cases exponent with
  | ofNat up =>
    rw [Int.ofNat_eq_natCast, zpow_natCast] at size
    obtain rfl : coefficient * 10 ^ up = n := by exact_mod_cast size
    rw [toDouble_shift, Int.zero_add]
    rfl
  | negSucc down =>
    have power : (10 : ℚ) ^ (down + 1) ≠ 0 := pow_ne_zero _ (by decide)
    rw [zpow_negSucc, mul_inv_eq_iff_eq_mul₀ power] at size
    obtain rfl : coefficient = n * 10 ^ (down + 1) := by exact_mod_cast size
    rw [toDouble_shift]
    congr 2
    omega

theorem toDouble_nat (negative : Bool) {n : Nat} (nonzero : n ≠ 0) (few : digitCount n ≤ 310) :
    toDouble ⟨negative, n, 0⟩ = .ofRatio negative n 1 := by
  have place : top ⟨negative, n * 5 ^ 0, -(0 : Nat)⟩ = digitCount n := by simp [top]
  simpa using toDouble_scaled negative nonzero 0 (by omega) (by omega)

/-- The digits of an integer of 64 bits are rounded as the integer is. -/
theorem toDouble_int {i : ℤ} (small : i.natAbs < 2 ^ 64) :
    toDouble ⟨decide (i < 0), i.natAbs, 0⟩ = Double.ofInt i := by
  by_cases zero : i = 0
  · subst zero
    decide +kernel
  · have few : digitCount i.natAbs ≤ 310 :=
      Nat.le_trans (digitCount_le_iff.mpr (Nat.lt_trans small (by decide : 2 ^ 64 < 10 ^ 20)))
        (by decide)
    exact toDouble_nat _ (Int.natAbs_ne_zero.mpr zero) few

/-- A decimal that denotes an integer of 64 bits is rounded to as many units as the integer. -/
theorem toDouble_of_int {d : Decimal} {i : ℤ} (denotes : d.toRat = i) (small : i.natAbs < 2 ^ 64) :
    ∃ x, d.toDouble = .finite x ∧ x.units = Double.unitsOfInt i := by
  obtain ⟨x, made, _, units⟩ := Double.exists_ofInt small
  have size : (d.coefficient : ℚ) * 10 ^ d.exponent = i.natAbs := by
    rw [← abs_toRat, denotes, Nat.cast_natAbs, Int.cast_abs]
  rw [toDouble_of_nat size]
  by_cases zero : i = 0
  · -- a zero may have either sign
    subst zero
    refine ⟨.zero d.negative, rfl, ?_⟩
    rw [Finite.units_zero, Double.unitsOfInt_exact (by decide), Int.zero_mul]
  · exact ⟨x, by rw [negative_of_toRat denotes zero, toDouble_int small, made], units⟩

end Decimal

namespace Spelling
variable (n : Spelling)

/-- The number that the parts spell, as it is read aloud. -/
def value : ℚ :=
  let fraction := n.fraction.getD []
  (if n.sign.negative then -1 else 1) *
    (Nat.ofDigitChars 10 n.whole 0 + Nat.ofDigitChars 10 fraction 0 / 10 ^ fraction.length) *
    10 ^ Power.value n.power

theorem toRat_decimal : n.decimal.toRat = n.value := by
  have ten : (10 : ℚ) ≠ 0 := by decide
  simp only [Decimal.toRat, decimal, value, ofDigits_append]
  rw [zpow_sub₀ ten, zpow_natCast, ofDigits_eq, ofDigits_eq]
  push_cast
  field_simp

end Spelling

/-! ## White space -/

theorem not_isBlank_of_isDigit {text : List Char} (digits : text.all Char.isDigit = true) :
    ∀ c ∈ text, isBlank c = false := by
  intro c member
  have range := Char.isDigit_iff_toNat.mp (List.all_eq_true.mp digits c member)
  simp [isBlank] at range ⊢
  omega

theorem Sign.not_isBlank (sign : Sign) : ∀ c ∈ sign.chars, isBlank c = false := by
  obtain _ | negative := sign
  · simp [chars]
  · intro c member
    obtain rfl := List.mem_singleton.mp member
    cases negative <;> rfl

theorem Power.not_isBlank (power : Option Power) : ∀ c ∈ chars power, isBlank c = false := by
  cases power with
  | none => simp [chars]
  | some power =>
    have letter : isBlank (if power.capital then 'E' else 'e') = false := by
      cases power.capital <;> rfl
    rw [chars, List.forall_mem_cons, List.forall_mem_append]
    exact ⟨letter, power.sign.not_isBlank, not_isBlank_of_isDigit power.isDigit_digits⟩

/-- There is none in a decimal text. -/
theorem Spelling.not_isBlank (n : Spelling) : ∀ c ∈ n.chars, isBlank c = false := by
  have fraction : ∀ c ∈ fractionChars n.fraction, isBlank c = false := by
    have digits := n.isDigit_fraction
    cases shape : n.fraction with
    | none => simp [fractionChars]
    | some text =>
      rw [shape] at digits
      exact List.forall_mem_cons.mpr ⟨rfl, not_isBlank_of_isDigit digits⟩
  simp only [chars, List.forall_mem_append]
  exact ⟨n.sign.not_isBlank, not_isBlank_of_isDigit n.isDigit_whole, fraction,
    Power.not_isBlank n.power⟩

theorem trimStart_append {front rest : List Char} (before : ∀ c ∈ front, isBlank c = true)
    (solid : ∀ c ∈ rest.head?, isBlank c = false) : trimStart (front ++ rest) = rest := by
  rw [trimStart, List.dropWhile_append_of_pos before]
  cases rest with
  | nil => rfl
  | cons c rest => exact List.dropWhile_cons_of_neg (by simp [solid c rfl])

theorem trim_padded {front text back : List Char} (before : ∀ c ∈ front, isBlank c = true)
    (after : ∀ c ∈ back, isBlank c = true) (solid : ∀ c ∈ text, isBlank c = false) :
    trim (front ++ text ++ back) = text := by
  cases shape : text with
  | nil =>
    -- white space alone is dropped at the first end
    have all : ∀ c ∈ front ++ back, isBlank c = true := fun c member =>
      (List.mem_append.mp member).elim (before c) (after c)
    have bare : trimStart (front ++ back) = [] := by
      have dropped := @trimStart_append (front ++ back) [] all (fun _ none => nomatch none)
      rwa [List.append_nil] at dropped
    rw [trim, List.append_nil, bare]
    rfl
  | cons c rest =>
    have first : ∀ d ∈ (c :: rest ++ back).head?, isBlank d = false := by
      rintro _ ⟨⟩
      exact solid c (shape ▸ List.mem_cons_self)
    have last : ∀ d ∈ (c :: rest).reverse.head?, isBlank d = false := fun d member =>
      solid d (shape ▸ List.mem_reverse.mp (List.mem_of_mem_head? member))
    rw [trim, List.append_assoc, trimStart_append before first, List.reverse_append,
      trimStart_append (fun d member => after d (List.mem_reverse.mp member)) last,
      List.reverse_reverse]

/-! ## Values -/

/-- The text is a decimal text that denotes a number, with white space around. -/
def Spells (s : String) (number : ℚ) : Prop :=
  ∃ (front back : List Char) (n : Spelling), (∀ c ∈ front, isBlank c = true) ∧
    (∀ c ∈ back, isBlank c = true) ∧ s.toList = front ++ n.chars ++ back ∧ n.value = number

theorem natAbs_toInt_lt (i : Int64) : i.toInt.natAbs < 2 ^ 64 := by
  have least := i.le_toInt
  have most := i.toInt_lt
  omega

namespace Value

/-- An integer counts as what it is rounded to. -/
theorem exists_asNumber_int (i : Int64) : ∃ x, (int i).asNumber = some x ∧
    Double.ofInt i.toInt = .finite x ∧ x.units = Double.unitsOfInt i.toInt := by
  obtain ⟨x, made, _, units⟩ := Double.exists_ofInt (natAbs_toInt_lt i)
  exact ⟨x, by rw [asNumber, made, Double.finite?], made, units⟩

theorem nearest_of_asNumber_int {i : Int64} {x : Finite} (number : (int i).asNumber = some x) :
    x.Nearest i.toInt := by
  obtain ⟨y, made, near⟩ := Double.nearest_ofInt (natAbs_toInt_lt i)
  rw [asNumber, made, Double.finite?] at number
  exact Option.some.inj number ▸ near

/-- A text that spells an integer counts as what the integer is rounded to. -/
theorem exists_asNumber_string {s : String} {i : Int64} (spells : Spells s i.toInt) :
    ∃ x, (string s).asNumber = some x ∧ x.units = Double.unitsOfInt i.toInt := by
  obtain ⟨front, back, n, before, after, text, denotes⟩ := spells
  obtain ⟨x, made, units⟩ :=
    Decimal.toDouble_of_int (n.toRat_decimal.trans denotes) (natAbs_toInt_lt i)
  refine ⟨x, ?_, units⟩
  rw [asNumber, numberOfText, text, trim_padded before after n.not_isBlank, n.read?_chars,
    Option.bind_some, made, Double.finite?]

end Value
end MatchTree
