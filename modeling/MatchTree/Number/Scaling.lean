import MatchTree.Number.Decimal

/-!
Decimals as doubles by arithmetic on doubles: the coefficient is made a double, and that is
multiplied or divided by the double of a power of ten.

Each of the three is rounded by itself, so the result may lie beside the double that is nearest to
the decimal.
-/

set_option autoImplicit false
namespace MatchTree
namespace Finite

/-- The product, rounded. -/
def times (x y : Finite) : Double :=
  .ofRatio (x.negative != y.negative) (x.magnitude * y.magnitude) (2 ^ 2148)

/-- The quotient by a number other than zero, rounded. -/
def dividedBy (x y : Finite) : Double :=
  .ofRatio (x.negative != y.negative) x.magnitude y.magnitude

/-- The powers of ten within the range of doubles, each rounded. -/
def powerOfTen? (n : Nat) : Option Finite :=
  if n ≤ 308 then (Double.ofRatio false (10 ^ n) 1).finite? else none

/-- Multiplied by a power of ten, if that is no larger than a double can be. -/
def raise? (x : Finite) (up : Nat) : Option Finite :=
  match powerOfTen? up with
  | some power => (x.times power).finite?
  | none => if x.magnitude = 0 then some x else none

/-- Divided by the largest power of ten so many times, as long as anything is left. -/
def lowerFar? : Nat → Finite → Option Finite
  | 0, x => some x
  | times + 1, x =>
    if x.magnitude = 0 then some x
    else do
      let power ← powerOfTen? 308
      let y ← (x.dividedBy power).finite?
      lowerFar? times y

/-- Divided by a power of ten: as long as it is none of the doubles, by the largest of these. -/
def lower? (x : Finite) (down : Nat) : Option Finite := do
  let times := (down - 1) / 308
  let y ← x.lowerFar? times
  let power ← powerOfTen? (down - 308 * times)
  (y.dividedBy power).finite?

end Finite

/-- The double that a decimal comes to by arithmetic on doubles. -/
def Decimal.scaled? (d : Decimal) : Option Finite := do
  let x ← (Double.ofRatio d.negative d.coefficient 1).finite?
  match d.exponent with
  | .ofNat up => x.raise? up
  | .negSucc down => x.lower? (down + 1)

end MatchTree
