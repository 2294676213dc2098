import MatchTree.Value.Basic
import MatchTree.Number.Shortest
import MatchTree.Text.Quoted

/-!
How messages show a value: numbers in positional notation, strings and keys quoted, items
and fields separated by a comma and a space.
-/

set_option autoImplicit false
namespace MatchTree

/-- Decimal notation of an integer. -/
def intChars (i : Int) : List Char :=
  if i < 0 then '-' :: Nat.toDigits 10 i.natAbs else Nat.toDigits 10 i.natAbs

namespace Value

mutual

def chars : Value → List Char
  | .null => "null".toList
  | .bool b => (if b then "true" else "false").toList
  | .int i => intChars i.toInt
  | .float x => x.text.toList
  | .string s => quoteChars s.toList
  | .array items => '[' :: (itemChars items ++ [']'])
  | .object fields => '\x7b' :: (fieldChars fields ++ ['\x7d'])

def itemChars : List Value → List Char
  | [] => []
  | [item] => item.chars
  | item :: rest => item.chars ++ ',' :: ' ' :: itemChars rest

def fieldChars : List (String × Value) → List Char
  | [] => []
  | [(key, value)] => quoteChars key.toList ++ ':' :: ' ' :: value.chars
  | (key, value) :: rest =>
    quoteChars key.toList ++ ':' :: ' ' :: (value.chars ++ ',' :: ' ' :: fieldChars rest)

end

def text (v : Value) : String := String.ofList v.chars

instance : ToString Value := ⟨Value.text⟩

end Value
end MatchTree
