import MatchTree.Number.Decimal
import MatchTree.Text.Blank

/-!
The parts that written dates are made of. Each reader takes a part from the front of a text
and gives what is left.
-/

set_option autoImplicit false
namespace MatchTree.Calendar

/-- A number of at least `least` and, if `most` is given, at most `most` digits. -/
def number? (least : Nat) (most : Option Nat) (text : List Char) : Option (Nat × List Char) :=
  let run := text.takeWhile Char.isDigit
  let digits := match most with
    | some most => run.take most
    | none => run
  if digits.length < least then none
  else some (ofDigits digits, text.drop digits.length)

def fixed? (digits : Nat) (text : List Char) : Option (Nat × List Char) :=
  number? digits (some digits) text

/-- One given character. -/
def char? (c : Char) : List Char → Option (List Char)
  | d :: rest => if d = c then some rest else none
  | [] => none

/-- White space, at least one character of it. -/
def blanks? : List Char → Option (List Char)
  | c :: rest => if isBlank c then some (trimStart rest) else none
  | [] => none

/-- The digits after a decimal point, as nanoseconds; those past the ninth are dropped. -/
def nanos? (text : List Char) : Option (Nat × List Char) :=
  let digits := text.takeWhile Char.isDigit
  if digits.isEmpty then none
  else
    let kept := digits.take 9
    some (ofDigits kept * 10 ^ (9 - kept.length), text.drop digits.length)

/-- A fraction of a second, if a point announces one. -/
def fraction? : List Char → Option (Nat × List Char)
  | '.' :: rest => nanos? rest
  | rest => some (0, rest)

/-- Two digits of which the first is at most 5. -/
def sixties? (text : List Char) : Option (Nat × List Char) := do
  let (n, rest) ← fixed? 2 text
  if n < 60 then some (n, rest) else none

/-- One of a list of words, whatever their case; gives its place in the list. -/
def word? (words : List (List Char)) (text : List Char) : Option (Nat × List Char) :=
  (words.findIdx? fun word => word == (text.take word.length).map Char.toLower).map fun i =>
    (i, text.drop (words.getD i []).length)

end MatchTree.Calendar
