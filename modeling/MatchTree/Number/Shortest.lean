import MatchTree.Number.Decimal

/-!
The shortest decimal that reads back as a given double, and the two ways to write it.

A decimal is tried on grids of 1, 2, … 17 digits. On each grid only the two neighbours of
the exact value can be nearest to it, so the first grid with a neighbour that reads back
has the fewest digits; of two such neighbours the nearer is taken.
-/

set_option autoImplicit false
namespace MatchTree
namespace Finite

/-- The exact decimal: `2 ^ -1074` is `5 ^ 1074 * 10 ^ -1074`. -/
def exactDecimal (x : Finite) : Decimal :=
  ⟨x.negative, x.magnitude * 5 ^ 1074, -1074⟩

/-- The decimal stands for this number and no other double. -/
def ReadsBack (x : Finite) (d : Decimal) : Prop :=
  d.toDouble = .finite x

instance (x : Finite) (d : Decimal) : Decidable (x.ReadsBack d) :=
  inferInstanceAs (Decidable (_ = _))

/-- The power of ten that is the first digit's place. -/
def leadingPlace (x : Finite) : Int :=
  let scale := 2 ^ 1074
  let guess : Int := digitCount x.magnitude - digitCount scale
  let reached : Bool := match guess with
    | .ofNat up => scale * 10 ^ up ≤ x.magnitude
    | .negSucc down => scale ≤ x.magnitude * 10 ^ (down + 1)
  if reached then guess else guess - 1

/-- The neighbours of the number among the multiples of `10 ^ place`, the nearer first. -/
def neighbours (x : Finite) (place : Int) : List Decimal :=
  let (numerator, denominator) := match place with
    | .ofNat up => (x.magnitude, 2 ^ 1074 * 10 ^ up)
    | .negSucc down => (x.magnitude * 10 ^ (down + 1), 2 ^ 1074)
  let below := numerator / denominator
  let decimal (n : Nat) : Decimal := ⟨x.negative, n, place⟩
  if roundHalfEven numerator denominator = below then [decimal below, decimal (below + 1)]
  else [decimal (below + 1), decimal below]

/-- The best decimal of so many digits, if one of them reads back. -/
def decimalOfLength? (x : Finite) (digits : Nat) : Option Decimal :=
  (x.neighbours (x.leadingPlace + 1 - digits)).find? fun d => x.ReadsBack d

/-- The shortest decimal that reads back. -/
def shortest (x : Finite) : Decimal :=
  ((List.range 17).findSome? fun n => x.decimalOfLength? (n + 1)).getD x.exactDecimal

end Finite

namespace Decimal

/-- Moves trailing zeros of the coefficient into the exponent. -/
def strip (d : Decimal) : Decimal :=
  let text := (Nat.toDigits 10 d.coefficient).reverse
  let zeros := (text.takeWhile (· == '0')).length
  if d.coefficient = 0 then ⟨d.negative, 0, 0⟩
  else ⟨d.negative, d.coefficient / 10 ^ zeros, d.exponent + zeros⟩

def signText (d : Decimal) : List Char := if d.negative then ['-'] else []

/-- Positional notation of the size: no exponent, and no point unless there is a fraction. -/
def plainSize (d : Decimal) : List Char :=
  let digits := Nat.toDigits 10 d.coefficient
  match d.exponent with
  | .ofNat up => if d.coefficient = 0 then ['0'] else digits ++ List.replicate up '0'
  | .negSucc down =>
    let places := down + 1
    if digits.length ≤ places then
      '0' :: '.' :: (List.replicate (places - digits.length) '0' ++ digits)
    else
      digits.take (digits.length - places) ++ '.' :: digits.drop (digits.length - places)

/-- One digit, the rest after a point, and the power of ten with its sign. -/
def scientificSize (d : Decimal) : List Char :=
  let digits := Nat.toDigits 10 d.coefficient
  let power : Int := d.exponent + digits.length - 1
  let fraction := digits.drop 1
  digits.take 1 ++ (if fraction.isEmpty then [] else '.' :: fraction) ++
    ['e', if power < 0 then '-' else '+'] ++ Nat.toDigits 10 power.natAbs

end Decimal

namespace Finite

/-- Positional notation of the shortest decimal. -/
def plainText (x : Finite) : List Char :=
  let d := x.shortest.strip
  d.signText ++ d.plainSize

/-- The notation of JSON documents: always a point or an exponent. It is positional while
the first digit's place is between `10 ^ -5` and `10 ^ 15`. -/
def documentText (x : Finite) : List Char :=
  let d := x.shortest.strip
  let place : Int := d.exponent + digitCount d.coefficient - 1
  if d.coefficient = 0 ∨ (-5 ≤ place ∧ place ≤ 15) then
    d.signText ++ d.plainSize ++ (if 0 ≤ d.exponent then ['.', '0'] else [])
  else
    d.signText ++ d.scientificSize

end Finite

namespace Double

/-- What a message shows: the shortest positional decimal, or the name of a non-number. -/
def text : Double → String
  | .nan => "NaN"
  | .infinite negative => if negative then "-inf" else "inf"
  | .finite x => String.ofList x.plainText

end Double
end MatchTree
