import MatchTree.Number.Scaling
import MatchTree.Text.RangeTable
import MatchTree.Value.Basic

/-!
The tokens of JSON text, and a lexer that takes one character at a time.

Between tokens the lexer is `idle`; a word is a run of the characters that numerals and the
three names are made of, and it is read when something else follows. Inside a string the lexer
remembers an unfinished escape and, after the first half of a surrogate pair, that half.
-/

set_option autoImplicit false
namespace MatchTree.Json

/-- A string literal and a word stand for what they spell. A literal may be well formed and spell
nothing: a string by half a surrogate pair, a numeral by lying beyond every double. -/
inductive Token
  | openList
  | closeList
  | openDict
  | closeDict
  | comma
  | colon
  | string (spelled : Option String)
  | scalar (spelled : Option Value)
  deriving Repr, Inhabited

/-- Where in a string literal the lexer is. -/
inductive Escape
  | none
  | backslash
  | code (digitsLeft : Nat) (value : Nat)
  deriving DecidableEq, Repr

/-- The characters of a pending token stand in reverse; those of a string are what it spells so
far. -/
inductive Lexer
  | idle
  | word (taken : List Char)
  | string (spelled : Option (List Char)) (half : Option Nat) (escape : Escape)
  deriving Repr, Inhabited

def isSpace (c : Char) : Bool :=
  c == ' ' || c == '\n' || c == '\t' || c == '\r'

def isWordChar (c : Char) : Bool :=
  c.isAlphanum || c == '-' || c == '+' || c == '.'

/-- The whole part of a numeral: no leading zero before another digit. -/
def isWhole : List Char → Bool
  | [] => false
  | ['0'] => true
  | '0' :: _ => false
  | digits => digits.all Char.isDigit

def digitsOnly (text : List Char) : Bool :=
  !text.isEmpty && text.all Char.isDigit

/-- What may follow `e`: an optional sign and digits. -/
def isPower : List Char → Bool
  | '+' :: digits => digitsOnly digits
  | '-' :: digits => digitsOnly digits
  | digits => digitsOnly digits

/-- What may follow the whole part: a fraction, an exponent, or both. -/
def isTail (text : List Char) : Bool :=
  let exponentOk : List Char → Bool
    | [] => true
    | c :: power => (c == 'e' || c == 'E') && isPower power
  match text with
  | '.' :: rest =>
    let (fraction, rest) := rest.span Char.isDigit
    !fraction.isEmpty && exponentOk rest
  | rest => exponentOk rest

/-- The grammar of numerals. -/
def isNumeral (text : List Char) : Bool :=
  let unsigned (text : List Char) : Bool :=
    let (whole, rest) := text.span Char.isDigit
    isWhole whole && isTail rest
  match text with
  | '-' :: rest => unsigned rest
  | rest => unsigned rest

/-- An integer that fits 64 bits. -/
def int64? (i : Int) : Option Int64 :=
  if -2 ^ 63 ≤ i ∧ i < 2 ^ 63 then some (Int64.ofInt i) else none

/-- Adds digits to a number as long as it fits 64 bits; the second number counts those left over. -/
def fitDigits (start : Nat) : List Char → Nat × Nat
  | [] => (start, 0)
  | c :: rest =>
    let next := 10 * start + digitValue c
    if next < 2 ^ 64 then fitDigits next rest else (start, rest.length + 1)

/-- The decimal that a numeral is read for. Of the digits left over, those of the whole part count
for a power of ten each, and those of the fraction for nothing. -/
def scan? (text : List Char) : Option Decimal := do
  let (negative, rest) := Decimal.readSign text
  let (whole, rest) := rest.span Char.isDigit
  let (fraction, rest) := Decimal.readFraction rest
  let power ← Decimal.readExponent? rest
  let (start, more) := fitDigits 0 whole
  let (coefficient, less) := fitDigits start fraction
  return ⟨negative, coefficient, power + more - (fraction.length - less)⟩

/-- A numeral without point and exponent is an integer as long as it fits 64 bits; minus zero and
everything else is a double, which must be finite. -/
def number? (text : List Char) : Option Value := do
  let d ← scan? text
  let asDouble := d.scaled?.map fun x => Value.float (.finite x)
  let integral := text.all fun c => c.isDigit || c == '-'
  if integral && d.exponent == 0 && !(d.negative && d.coefficient == 0) then
    match int64? (if d.negative then -(d.coefficient : Int) else d.coefficient) with
    | some i => some (.int i)
    | none => asDouble
  else asDouble

def word? (text : List Char) : Option Token :=
  if text = "null".toList then some (.scalar (some .null))
  else if text = "true".toList then some (.scalar (some (.bool true)))
  else if text = "false".toList then some (.scalar (some (.bool false)))
  else if isNumeral text then some (.scalar (number? text))
  else none

def punctuation? : Char → Option Token
  | '[' => some .openList
  | ']' => some .closeList
  | '\x7b' => some .openDict
  | '\x7d' => some .closeDict
  | ',' => some .comma
  | ':' => some .colon
  | _ => none

/-- The character after a backslash, where one letter says it all. -/
def letterEscape? : Char → Option Char
  | '"' => some '"'
  | '\\' => some '\\'
  | '/' => some '/'
  | 'b' => some '\x08'
  | 'f' => some '\x0c'
  | 'n' => some '\n'
  | 'r' => some '\r'
  | 't' => some '\t'
  | _ => none

def isHighHalf (code : Nat) : Bool := 0xD800 ≤ code && code < 0xDC00

def isLowHalf (code : Nat) : Bool := 0xDC00 ≤ code && code < 0xE000

namespace Lexer

/-- A character between tokens. -/
def start (c : Char) : Option (Lexer × List Token) :=
  if isSpace c then some (.idle, [])
  else if c = '"' then some (.string (some []) none .none, [])
  else if isWordChar c then some (.word [c], [])
  else (punctuation? c).map fun token => (.idle, [token])

/-- A finished four-digit escape: a plain code, or half of a pair. A second half has to follow a
first, and nothing else may. -/
def endCode (spelled : Option (List Char)) (half : Option Nat) (code : Nat) : Lexer :=
  match half with
  | some high =>
    let pair := 0x10000 + (high - 0xD800) * 0x400 + (code - 0xDC00)
    .string (if isLowHalf code then spelled.map (Char.ofNat pair :: ·) else none) none .none
  | none =>
    if isHighHalf code then .string spelled (some code) .none
    else .string (if isLowHalf code then none else spelled.map (Char.ofNat code :: ·)) none .none

/-- What is spelled so far, as something else than a second half follows. -/
def unlessHalf (spelled : Option (List Char)) (half : Option Nat) : Option (List Char) :=
  if half.isSome then none else spelled

def step : Lexer → Char → Option (Lexer × List Token)
  | .idle, c => start c
  | .word taken, c =>
    if isWordChar c then some (.word (c :: taken), [])
    else do
      let token ← word? taken.reverse
      let (next, tokens) ← start c
      return (next, token :: tokens)
  | .string spelled half .none, c =>
    if c = '\\' then some (.string spelled half .backslash, [])
    else if c = '"' then
      some (.idle, [.string ((unlessHalf spelled half).map fun cs => String.ofList cs.reverse)])
    else if c.toNat < 0x20 then none
    else some (.string ((unlessHalf spelled half).map (c :: ·)) none .none, [])
  | .string spelled half .backslash, c =>
    if c = 'u' then some (.string spelled half (.code 4 0), [])
    else
      (letterEscape? c).map fun d =>
        (.string ((unlessHalf spelled half).map (d :: ·)) none .none, [])
  | .string spelled half (.code left value), c => do
    let digit ← hexDigit? c
    let value := 16 * value + digit
    if left ≤ 1 then return (endCode spelled half value, [])
    else return (.string spelled half (.code (left - 1) value), [])

/-- The end of the text. -/
def finish : Lexer → Option (List Token)
  | .idle => some []
  | .word taken => (word? taken.reverse).map fun token => [token]
  | .string .. => none

def run : Lexer → List Char → Option (List Token)
  | lexer, [] => lexer.finish
  | lexer, c :: rest => do
    let (next, tokens) ← lexer.step c
    return tokens ++ (← run next rest)

end Lexer

/-- The tokens of a whole text. -/
def tokens? (text : List Char) : Option (List Token) :=
  Lexer.run .idle text

end MatchTree.Json
