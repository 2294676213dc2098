import MatchTree.Text.RangeTable

/-!
Labels in ASCII clothing: after the plain characters of a label, a run of letters and digits
says which other characters stand where.
-/

set_option autoImplicit false
namespace MatchTree.HostName

def punycodeDigit? (c : Char) : Option Nat :=
  if c.isLower then some (c.toNat - 'a'.toNat)
  else if c.isUpper then some (c.toNat - 'A'.toNat)
  else if c.isDigit then some (c.toNat - '0'.toNat + 26)
  else none

/-- The weight of a digit's place is bounded by 1 and 26. -/
def threshold (place bias : Nat) : Nat :=
  if place ≤ bias + 1 then 1 else if bias + 26 ≤ place then 26 else place - bias

/-- Reads one number in digits of variable weight; every digit below its threshold is the
last. -/
def readDelta (bias : Nat) : (place weight total : Nat) → List Char → Option (Nat × List Char)
  | _, _, _, [] => none
  | place, weight, total, c :: rest =>
    match punycodeDigit? c with
    | none => none
    | some digit =>
      let total := total + digit * weight
      let t := threshold place bias
      if 2 ^ 32 ≤ total then none
      else if digit < t then some (total, rest)
      else readDelta bias (place + 36) (weight * (36 - t)) total rest

/-- Halvings of a delta until the thresholds fit it. The fuel bounds their number. -/
def reduceDelta : Nat → (delta place : Nat) → Nat × Nat
  | 0, delta, place => (delta, place)
  | fuel + 1, delta, place =>
    if 455 < delta then reduceDelta fuel (delta / 35) (place + 36) else (delta, place)

def adaptBias (delta count : Nat) (first : Bool) : Nat :=
  let delta := if first then delta / 700 else delta / 2
  let (delta, place) := reduceDelta 40 (delta + delta / count) 0
  place + 36 * delta / (delta + 38)

/-- Puts the remaining characters in, one by one. The fuel is the text's length. -/
def insertCodes : Nat → (code place bias : Nat) → List Nat → List Char → Option (List Nat)
  | _, _, _, _, codes, [] => some codes
  | 0, _, _, _, _, _ => none
  | fuel + 1, code, place, bias, codes, text =>
    match readDelta bias 36 1 0 text with
    | none => none
    | some (delta, rest) =>
      let count := codes.length + 1
      let bias := adaptBias delta count (place == 0 && code == 0x80)
      let place := place + delta
      let code := code + place / count
      let place := place % count
      if code.isValidChar then
        insertCodes fuel code (place + 1) bias (codes.take place ++ code :: codes.drop place) rest
      else none

/-- Splits at the last hyphen, if there is one. -/
def splitHyphen (text : List Char) : List Char × List Char :=
  let after := (text.reverse.takeWhile (· ≠ '-')).reverse
  if after.length = text.length then ([], text)
  else (text.take (text.length - after.length - 1), after)

/-- The characters that a label stands for, from after its mark. -/
def decodePunycode (text : List Char) : Option (List Nat) :=
  let (plain, rest) := splitHyphen text
  insertCodes (rest.length + 1) 0x80 0 72 (plain.map Char.toNat) rest

end MatchTree.HostName
