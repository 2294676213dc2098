/-!
Sets of characters as tables of ranges.

A table lists disjoint ranges of code points in ascending order; membership is a binary
search. Larger tables are written as text, one hexadecimal code point or range per word.
-/

set_option autoImplicit false
namespace MatchTree

structure CharRange where
  first : Nat
  last : Nat
  deriving DecidableEq, Repr, Inhabited

namespace CharRange

def contains (r : CharRange) (code : Nat) : Bool :=
  r.first ≤ code && code ≤ r.last

end CharRange

def hexDigit? (c : Char) : Option Nat :=
  if '0' ≤ c ∧ c ≤ '9' then some (c.toNat - '0'.toNat)
  else if 'a' ≤ c ∧ c ≤ 'f' then some (c.toNat - 'a'.toNat + 10)
  else if 'A' ≤ c ∧ c ≤ 'F' then some (c.toNat - 'A'.toNat + 10)
  else none

def isHexDigit (c : Char) : Bool := (hexDigit? c).isSome

/-- The number a run of hexadecimal digits spells; other characters count as zeros. -/
def ofHexDigits (digits : List Char) : Nat :=
  digits.foldl (fun total c => 16 * total + (hexDigit? c).getD 0) 0

/-- Splits at every occurrence of a character. -/
def splitChars (separator : Char) : List Char → List (List Char)
  | [] => [[]]
  | c :: rest =>
    match splitChars separator rest with
    | [] => [[c]]
    | piece :: pieces => if c = separator then [] :: piece :: pieces else (c :: piece) :: pieces

abbrev RangeTable := Array CharRange

namespace RangeTable

/-- Whether one of the ranges from `low` up to, not including, `high` holds the code. -/
def search (table : RangeTable) (code low high : Nat) : Bool :=
  if _h : low < high then
    let middle := (low + high) / 2
    match table[middle]? with
    | none => false
    | some r =>
      if code < r.first then search table code low middle
      else if r.last < code then search table code (middle + 1) high
      else true
  else false
  termination_by high - low

def contains (table : RangeTable) (code : Nat) : Bool :=
  search table code 0 table.size

def readRange (word : List Char) : CharRange :=
  match splitChars '-' word with
  | [first, last] => ⟨ofHexDigits first, ofHexDigits last⟩
  | _ => ⟨ofHexDigits word, ofHexDigits word⟩

/-- Reads the written form of a table. -/
def ofLines (lines : List String) : RangeTable :=
  (lines.flatMap fun line =>
    ((splitChars ' ' line.toList).filter (· ≠ [])).map readRange).toArray

end RangeTable
end MatchTree
