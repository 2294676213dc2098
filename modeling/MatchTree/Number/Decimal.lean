import MatchTree.Number.Double

/-!
Decimal numerals: a sign, a whole coefficient and a power of ten.

`Decimal.read?` reads the grammar *sign? digits? point? digits? exponent?* with at least
one digit, over the whole text; `Decimal.toDouble` rounds once, correctly.
-/

set_option autoImplicit false
namespace MatchTree

/-- The exact number `± coefficient * 10 ^ exponent`. -/
structure Decimal where
  negative : Bool
  coefficient : Nat
  exponent : Int
  deriving DecidableEq, Repr, Inhabited

def digitValue (c : Char) : Nat := c.toNat - '0'.toNat

/-- The number a run of decimal digits spells, continuing from `start`. -/
def digitsFrom (start : Nat) (digits : List Char) : Nat :=
  digits.foldl (fun total c => 10 * total + digitValue c) start

def ofDigits (digits : List Char) : Nat := digitsFrom 0 digits

/-- How many decimal digits a number has; zero has none. -/
def digitCount (n : Nat) : Nat :=
  if n = 0 then 0 else (Nat.toDigits 10 n).length

namespace Decimal

/-- Rounds to the nearest double. Magnitudes of `10 ^ 310` and more are past the largest
double, and those below `10 ^ -330` closer to zero than half the smallest. -/
def toDouble (d : Decimal) : Double :=
  let top := digitCount d.coefficient + d.exponent
  if d.coefficient = 0 ∨ top < -330 then .finite (.zero d.negative)
  else if 310 < top then .infinite d.negative
  else match d.exponent with
    | .ofNat up => .ofRatio d.negative (d.coefficient * 10 ^ up) 1
    | .negSucc down => .ofRatio d.negative d.coefficient (10 ^ (down + 1))

/-- Splits off a leading sign; `true` is minus. -/
def readSign : List Char → Bool × List Char
  | '-' :: rest => (true, rest)
  | '+' :: rest => (false, rest)
  | rest => (false, rest)

/-- The power of ten after `e`: a sign and at least one digit, then the end. -/
def readPower? (text : List Char) : Option Int :=
  let (negative, digits) := readSign text
  if digits.isEmpty || !digits.all Char.isDigit then none
  else
    let size : Int := ofDigits digits
    some (if negative then -size else size)

/-- The exponent part: absent at the end of the text, else `e` or `E` and a power. -/
def readExponent? : List Char → Option Int
  | [] => some 0
  | c :: rest => if c = 'e' ∨ c = 'E' then readPower? rest else none

/-- The digits after a point, if there is a point, and what follows them. -/
def readFraction : List Char → List Char × List Char
  | '.' :: rest => rest.span Char.isDigit
  | rest => ([], rest)

/-- A numeral without its sign. -/
def readUnsigned? (negative : Bool) (text : List Char) : Option Decimal := do
  let (whole, rest) := text.span Char.isDigit
  let (fraction, rest) := readFraction rest
  if whole.isEmpty && fraction.isEmpty then none
  else
    let power ← readExponent? rest
    return ⟨negative, ofDigits (whole ++ fraction), power - fraction.length⟩

/-- Reads a whole text as a numeral. -/
def read? (text : List Char) : Option Decimal :=
  let (negative, rest) := readSign text
  readUnsigned? negative rest

end Decimal
end MatchTree
