import MatchTree.Value.Text

/-!
Compact JSON text: no spaces, fields as listed, and `null` for a float that is no number.
-/

set_option autoImplicit false
namespace MatchTree.Json

/-- The last two digits of a control character's escape. -/
def controlDigits (c : Char) : List Char :=
  [Nat.digitChar (c.toNat / 16), Nat.digitChar (c.toNat % 16)]

/-- How one character stands inside a string. -/
def escapeChar (c : Char) : List Char :=
  if c = '"' ∨ c = '\\' then ['\\', c]
  else if c = '\x08' then ['\\', 'b']
  else if c = '\x0c' then ['\\', 'f']
  else if c = '\n' then ['\\', 'n']
  else if c = '\r' then ['\\', 'r']
  else if c = '\t' then ['\\', 't']
  else if c.toNat < 0x20 then '\\' :: 'u' :: '0' :: '0' :: controlDigits c
  else [c]

def stringChars (s : String) : List Char :=
  '"' :: (s.toList.flatMap escapeChar ++ ['"'])

def doubleChars : Double → List Char
  | .finite x => x.documentText
  | _ => "null".toList

mutual

def chars : Value → List Char
  | .null => "null".toList
  | .bool b => (if b then "true" else "false").toList
  | .int i => intChars i.toInt
  | .float x => doubleChars x
  | .string s => stringChars s
  | .array items => '[' :: (itemChars items ++ [']'])
  | .object fields => '\x7b' :: (fieldChars fields ++ ['\x7d'])

def itemChars : List Value → List Char
  | [] => []
  | [item] => chars item
  | item :: rest => chars item ++ ',' :: itemChars rest

def fieldChars : List (String × Value) → List Char
  | [] => []
  | [(key, value)] => stringChars key ++ ':' :: chars value
  | (key, value) :: rest => stringChars key ++ ':' :: (chars value ++ ',' :: fieldChars rest)

end

def text (v : Value) : String := String.ofList (chars v)

end MatchTree.Json
