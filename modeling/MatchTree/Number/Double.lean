/-!
Double-precision numbers as exact quantities.

Every finite number of the format is an integral multiple of the smallest positive
one, `2 ^ -1074`. That multiple, `Finite.units`, is what comparisons look at, so all
questions about order and equality are questions about integers. Rounding goes to the
nearest number, and a tie goes to the even coefficient.
-/

set_option autoImplicit false
namespace MatchTree

-- Powers mean the same whether or not a more general theory of powers is in scope.
attribute [default_instance high, instance (high)] instPowNat

/-- The integer nearest to a quotient; halfway between two, the even one. -/
def roundHalfEven (numerator denominator : Nat) : Nat :=
  let quotient := numerator / denominator
  let excess := 2 * (numerator % denominator)
  if excess < denominator ∨ (excess = denominator ∧ quotient % 2 = 0) then quotient
  else quotient + 1

theorem roundHalfEven_one (numerator : Nat) : roundHalfEven numerator 1 = numerator := by
  simp [roundHalfEven, Nat.mod_one]

/-- The number `± coefficient * 2 ^ exponent` times `2 ^ -1074`. The two bounds on the
coefficient leave each magnitude a single form. -/
structure Finite where
  negative : Bool
  coefficient : Nat
  exponent : Nat
  coefficient_lt : coefficient < 2 ^ 53
  exponent_le : exponent ≤ 2045
  normal : exponent = 0 ∨ 2 ^ 52 ≤ coefficient
  deriving DecidableEq, Repr

namespace Finite

/-- The size of the number, counted in multiples of `2 ^ -1074`. -/
def magnitude (x : Finite) : Nat :=
  x.coefficient * 2 ^ x.exponent

/-- The number itself, counted in multiples of `2 ^ -1074`; both zeros give 0. -/
def units (x : Finite) : Int :=
  if x.negative then -(x.magnitude : Int) else x.magnitude

def zero (negative : Bool) : Finite :=
  ⟨negative, 0, 0, by decide, by decide, .inl rfl⟩

instance : Inhabited Finite := ⟨zero false⟩

instance : LT Finite := ⟨fun x y => x.units < y.units⟩

instance (x y : Finite) : Decidable (x < y) :=
  inferInstanceAs (Decidable (x.units < y.units))

theorem lt_iff {x y : Finite} : x < y ↔ x.units < y.units := Iff.rfl

theorem units_zero (negative : Bool) : (zero negative).units = 0 := by
  cases negative <;> rfl

end Finite

inductive Double
  | nan
  | infinite (negative : Bool)
  | finite (number : Finite)
  deriving DecidableEq, Repr

namespace Double

instance : Inhabited Double := ⟨.finite default⟩

/-- The number, when it is one. -/
def finite? : Double → Option Finite
  | .finite x => some x
  | _ => none

/-- Numeric equality: the two zeros are equal, and a NaN equals nothing. -/
def equals : Double → Double → Bool
  | .infinite a, .infinite b => a == b
  | .finite x, .finite y => x.units == y.units
  | _, _ => false

theorem equals_comm (a b : Double) : a.equals b = b.equals a := by
  cases a <;> cases b <;> simp [equals, Bool.beq_comm]

theorem equals_self_iff {a : Double} : a.equals a = true ↔ a ≠ .nan := by
  cases a <;> simp [equals]

/-- Puts a rounded coefficient into normal form: rounding up may carry it to `2 ^ 53`,
and past the largest exponent lies infinity. -/
def ofParts (negative : Bool) (coefficient exponent : Nat) : Double :=
  if valid : coefficient < 2 ^ 53 ∧ exponent ≤ 2045 ∧ (exponent = 0 ∨ 2 ^ 52 ≤ coefficient) then
    .finite ⟨negative, coefficient, exponent, valid.1, valid.2.1, valid.2.2⟩
  else if carried : coefficient = 2 ^ 53 ∧ exponent + 1 ≤ 2045 then
    .finite ⟨negative, 2 ^ 52, exponent + 1, by decide, carried.2, .inr (Nat.le_refl _)⟩
  else
    .infinite negative

/-- The double nearest to `± numerator / denominator`. -/
def ofRatio (negative : Bool) (numerator denominator : Nat) : Double :=
  let units := numerator * 2 ^ 1074
  let exponent := (units / denominator).log2 - 52
  ofParts negative (roundHalfEven units (denominator * 2 ^ exponent)) exponent

/-- The double nearest to an integer. -/
def ofInt (i : Int) : Double :=
  ofRatio (i < 0) i.natAbs 1

end Double
end MatchTree
