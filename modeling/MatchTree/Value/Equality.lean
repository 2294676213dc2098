import MatchTree.Value.Basic

/-!
Two equalities of values. The strict one tells integers from floats; the loose one compares
them as numbers, at any depth. Neither has a NaN equal to anything.
-/

set_option autoImplicit false
namespace MatchTree
namespace Value

mutual

/-- Equal kind by kind. -/
def equals : Value → Value → Bool
  | .null, .null => true
  | .bool a, .bool b => a == b
  | .int a, .int b => a == b
  | .float a, .float b => a.equals b
  | .string a, .string b => a == b
  | .array a, .array b => equalItems a b
  | .object a, .object b => equalFields a b
  | _, _ => false

def equalItems : List Value → List Value → Bool
  | [], [] => true
  | a :: as, b :: bs => a.equals b && equalItems as bs
  | _, _ => false

def equalFields : List (String × Value) → List (String × Value) → Bool
  | [], [] => true
  | (k, a) :: as, (l, b) :: bs => k == l && a.equals b && equalFields as bs
  | _, _ => false

end

mutual

/-- Equal as far as a reader can tell: an integer and a float are compared as doubles,
arrays item by item, and objects key by key. -/
def looselyEquals : Value → Value → Bool
  | .int a, .float b | .float b, .int a => (Double.ofInt a.toInt).equals b
  | .null, .null => true
  | .bool a, .bool b => a == b
  | .int a, .int b => a == b
  | .float a, .float b => a.equals b
  | .string a, .string b => a == b
  | .array a, .array b => looselyEqualItems a b
  | .object a, .object b => a.length == b.length && looselyIncluded a b
  | _, _ => false

def looselyEqualItems : List Value → List Value → Bool
  | [], [] => true
  | a :: as, b :: bs => a.looselyEquals b && looselyEqualItems as bs
  | _, _ => false

/-- Every field on the left is found on the right with a loosely equal value. -/
def looselyIncluded : List (String × Value) → List (String × Value) → Bool
  | [], _ => true
  | (key, a) :: rest, fields =>
    (match fields.lookup key with
      | some b => a.looselyEquals b
      | none => false) && looselyIncluded rest fields

end
end Value
end MatchTree
