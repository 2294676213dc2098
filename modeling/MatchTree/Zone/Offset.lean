import MatchTree.Number.Decimal
import MatchTree.Text.Utf8

/-!
Offsets from UTC: `Z`, or a sign with hours and perhaps minutes, up to fourteen hours.

A text is told by its number of bytes, and cut after two of them. A verdict is missing where the
text would be cut inside a character, or a byte read that it does not have.
-/

set_option autoImplicit false
namespace MatchTree.Zone
open MatchTree.Substring (utf8 utf8Length cutAt?)

def isDigitByte (byte : UInt8) : Bool := 0x30 ≤ byte && byte ≤ 0x39

/-- The number that digits spell; where they spell none of 32 bits, the largest of these. -/
def numberOrLargest (digits : List Char) : Nat :=
  if !digits.isEmpty && digits.all Char.isDigit then min (ofDigits digits) (2 ^ 32 - 1)
  else 2 ^ 32 - 1

/-- Hours and minutes within bounds, the hours of two digits; without minutes there are none. -/
def clockVerdict? (digits : List Char) : Option Bool :=
  if (utf8 digits).all isDigitByte then do
    let (front, back) ← cutAt? 2 digits
    let hours := numberOrLargest front
    let minutes := if back.isEmpty then 0 else numberOrLargest back
    return minutes < 60 && (hours < 14 || (hours == 14 && minutes == 0))
  else some false

/-- Of five bytes the third has to be a colon; the first colon is left out, wherever it is. -/
def signedVerdict? (text : List Char) : Option Bool :=
  match utf8Length text with
  | 2 | 4 => clockVerdict? text
  | 5 => do
    let byte ← (utf8 text)[2]?
    if byte = 0x3A then clockVerdict? (text.erase ':') else return false
  | _ => some false

def offsetVerdict? : List Char → Option Bool
  | ['Z'] => some true
  | '+' :: rest | '-' :: rest => signedVerdict? rest
  | _ => some false

def isOffset (text : List Char) : Bool := offsetVerdict? text == some true

end MatchTree.Zone
