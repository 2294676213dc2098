import MatchTree.Value.Basic
import MatchTree.Text.RangeTable

/-!
What a YAML scalar stands for: null, a truth value, a number or a text.

A plain scalar without a tag is what it looks like; any other is a text, unless its tag
names a kind, which it must then spell. Digits after a leading zero are a text. A whole
number past 64 bits stands for nothing, and one past 128 bits counts as a decimal numeral.
-/

set_option autoImplicit false
namespace MatchTree.Yaml

def isNullText (text : String) : Bool :=
  text == "null" || text == "Null" || text == "NULL" || text == "~"

def boolOfText? (text : String) : Option Bool :=
  if text == "true" || text == "True" || text == "TRUE" then some true
  else if text == "false" || text == "False" || text == "FALSE" then some false
  else none

/-- Digits after a leading zero, with or without a sign. -/
def isPadded (text : List Char) : Bool :=
  let digits := match text with
    | '-' :: rest => rest
    | '+' :: rest => rest
    | _ => text
  1 < digits.length && digits.head? == some '0' && digits.all Char.isDigit

/-- A run of digits of a base, at least one. -/
def digits? (base : Nat) (text : List Char) : Option Nat := do
  if text.isEmpty then none
  else
    text.foldlM (fun total c => do
      let digit ← hexDigit? c
      if digit < base then return base * total + digit else none) 0

/-- A magnitude: decimal digits, or others after `0x`, `0o` or `0b`. -/
def magnitude? (text : List Char) : Option Nat :=
  match text with
  | '0' :: 'x' :: rest => digits? 16 rest
  | '0' :: 'o' :: rest => digits? 8 rest
  | '0' :: 'b' :: rest => digits? 2 rest
  | _ => if isPadded text then none else digits? 10 text

/-- A whole number of at most 128 bits, with a sign or without. -/
def whole? (text : List Char) : Option Int :=
  match text with
  | '-' :: rest => do
    let n ← magnitude? rest
    if n ≤ 2 ^ 127 then return -n else none
  | '+' :: rest => do
    let n ← magnitude? rest
    if n < 2 ^ 128 then return n else none
  | _ => do
    let n ← magnitude? text
    if n < 2 ^ 128 then return n else none

/-- The value of a whole number: 64 bits at most, and a double past the signed ones. -/
def valueOfWhole? (n : Int) : Option Value :=
  if n < -2 ^ 63 ∨ 2 ^ 64 ≤ n then none
  else if n < 2 ^ 63 then some (.int (Int64.ofInt n))
  else some (.float (.ofInt n))

def float? (text : String) : Option Double :=
  if [".inf", ".Inf", ".INF", "+.inf", "+.Inf", "+.INF"].contains text then some (.infinite false)
  else if ["-.inf", "-.Inf", "-.INF"].contains text then some (.infinite true)
  else if [".nan", ".NaN", ".NAN"].contains text then some .nan
  else (Decimal.read? text.toList).bind fun d => d.toDouble.finite?.map Double.finite

/-- What a plain scalar without a tag stands for. -/
def valueOfPlain? (text : String) : Option Value :=
  if text.isEmpty || isNullText text then some .null
  else match boolOfText? text with
    | some b => some (.bool b)
    | none =>
      match whole? text.toList with
      | some n => valueOfWhole? n
      | none =>
        match float? text with
        | some x => some (if isPadded text.toList then .string text else .float x)
        | none => some (.string text)

/-- What a scalar stands for. A tag of the reader's own making stands for nothing. -/
def valueOfScalar? (plain : Bool) (tag : Option String) (text : String) : Option Value :=
  match tag with
  | none => if plain then valueOfPlain? text else some (.string text)
  | some "tag:yaml.org,2002:bool" => (boolOfText? text).map .bool
  | some "tag:yaml.org,2002:int" => (whole? text.toList).bind valueOfWhole?
  | some "tag:yaml.org,2002:float" => (float? text).map .float
  | some "tag:yaml.org,2002:null" => if isNullText text then some .null else none
  | some tag => if tag.startsWith "!" then none else some (.string text)

end MatchTree.Yaml
