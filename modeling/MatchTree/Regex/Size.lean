import MatchTree.Regex.Expression

/-!
How large the automaton of an expression is, which reads the bytes of UTF-8: about 32 bytes
for each state. Expressions whose automaton is too large are refused.

A set costs what it takes to tell the byte sequences of its characters from others. They are
listed as sequences of byte ranges, in ascending order, and sequences that begin alike share
the states of what they have in common.
-/

set_option autoImplicit false
namespace MatchTree.Regex

/-- The UTF-8 bytes of a code point. -/
def utf8Bytes (code : Nat) : List Nat :=
  let tail (place : Nat) : Nat := 0x80 + code / 64 ^ place % 64
  if code < 0x80 then [code]
  else if code < 0x800 then [0xC0 + code / 64, tail 0]
  else if code < 0x10000 then [0xE0 + code / 64 ^ 2, tail 1, tail 0]
  else [0xF0 + code / 64 ^ 3, tail 2, tail 1, tail 0]

abbrev ByteRanges := List (Nat × Nat)

/-- Where the first two parts of a range part, such that the bytes of each part vary
independently of each other: the last code of the first part. -/
def splitPoint? (first last : Nat) : Option Nat :=
  if first ≤ 0xD7FF ∧ 0xD7FF < last then some 0xD7FF
  else match [0x7F, 0x7FF, 0xFFFF].find? fun top => first ≤ top && top < last with
    | some top => some top
    | none =>
      if last ≤ 0x7F then none
      else [64, 64 ^ 2, 64 ^ 3].findSome? fun block =>
        if first / block = last / block then none
        else if first % block ≠ 0 then some (first + (block - 1 - first % block))
        else if last % block ≠ block - 1 then some (last - last % block - 1)
        else none

/-- The byte sequences of a range. The fuel bounds the splits within each other: four by
length and two for each of three places. -/
def byteSequences : Nat → (first last : Nat) → List ByteRanges
  | 0, _, _ => []
  | fuel + 1, first, last =>
    let first := if 0xD800 ≤ first ∧ first ≤ 0xDFFF then 0xE000 else first
    let last := if 0xD800 ≤ last ∧ last ≤ 0xDFFF then 0xD7FF else last
    if last < first then []
    else match splitPoint? first last with
      | some middle => byteSequences fuel first middle ++ byteSequences fuel (middle + 1) last
      | none => [(utf8Bytes first).zip (utf8Bytes last)]

/-- How many ranges two sequences have in common at their front. -/
def sharedLength : ByteRanges → ByteRanges → Nat
  | a :: as, b :: bs => if a = b then sharedLength as bs + 1 else 0
  | _, _ => 0

/-- How many states tell the sequences from others, after a sequence. -/
def stateCount : ByteRanges → List ByteRanges → Nat
  | _, [] => 0
  | before, next :: rest => next.length - sharedLength before next + stateCount next rest

/-- A single character takes a state for each byte, and ASCII sets take one state. -/
def CharSet.cost (set : CharSet) : Nat :=
  let sequences := set.ranges.flatMap fun r => byteSequences 12 r.first r.last
  match sequences with
  | [[(first, last)]] => if first = last then 32 else 40
  | _ =>
    if set.isAscii then 32 + 8 * sequences.length
    else if sequences.length = 1 ∧ sequences.all (·.all fun (first, last) => first = last) then
      32 * stateCount [] sequences
    else 64 + 4 * sequences.length + 32 * stateCount [] sequences

mutual

/-- The size of the automaton of an expression, in bytes. -/
def Expression.cost : Expression → Nat
  | .empty => 32
  | .set chars => chars.cost
  | .look _ => 32
  | .concat parts => costOf parts
  | .alternation branches => 64 + costOf branches
  | .repetition least none body => (max least 1) * body.cost + 40
  | .repetition least (some most) body => most * body.cost + (most - least) * 40 + 32

def costOf : List Expression → Nat
  | [] => 0
  | part :: rest => part.cost + costOf rest

end

def maxCost : Nat := 10 * 2 ^ 20

/-- Refuses an expression whose automaton is too large. -/
def Expression.checkSize (expression : Expression) : Except Fault Unit :=
  if maxCost < expression.cost then .error .size else .ok ()

end MatchTree.Regex
