import MatchTree.Number.Decimal
import MatchTree.Table
import MatchTree.Text.Blank

/-!
The data that patterns are written in and that they are matched against.

The fields of an object are listed in ascending order of their keys, each key once; keys
compare by code points. `Value.Ordered` says so for every object inside a value. A text may
list fields otherwise: `Value.tidy` gives the value that such a listing stands for.
-/

set_option autoImplicit false
namespace MatchTree

inductive Value
  | null
  | bool (b : Bool)
  | int (i : Int64)
  | float (x : Double)
  | string (s : String)
  | array (items : List Value)
  | object (fields : List (String × Value))
  deriving Repr, Inhabited

abbrev Fields := Table Value

namespace Value

mutual

/-- Every object inside lists its keys in ascending order, each once. -/
def Ordered : Value → Prop
  | .array items => OrderedItems items
  | .object fields => Table.Ascending fields ∧ OrderedFields fields
  | _ => True

def OrderedItems : List Value → Prop
  | [] => True
  | item :: rest => item.Ordered ∧ OrderedItems rest

def OrderedFields : List (String × Value) → Prop
  | [] => True
  | (_, value) :: rest => value.Ordered ∧ OrderedFields rest

end

mutual

/-- Brings the fields of every object into order; of several with one key the last stays. -/
def tidy : Value → Value
  | .array items => .array (tidyItems items)
  | .object fields => .object (Table.ofList (tidyFields fields))
  | v => v

def tidyItems : List Value → List Value
  | [] => []
  | item :: rest => item.tidy :: tidyItems rest

def tidyFields : List (String × Value) → List (String × Value)
  | [] => []
  | (key, value) :: rest => (key, value.tidy) :: tidyFields rest

end

def isNull : Value → Bool
  | .null => true
  | _ => false

def isString : Value → Bool
  | .string _ => true
  | _ => false

def isNumber : Value → Bool
  | .int _ | .float _ => true
  | _ => false

def asString : Value → Option String
  | .string s => some s
  | _ => none

def asBool : Value → Option Bool
  | .bool b => some b
  | _ => none

def asInt : Value → Option Int64
  | .int i => some i
  | _ => none

def asArray : Value → Option (List Value)
  | .array items => some items
  | _ => none

def asObject : Value → Option Fields
  | .object fields => some fields
  | _ => none

/-- The number a text spells, white space around it apart; only finite ones count. -/
def numberOfText (text : List Char) : Option Finite :=
  (Decimal.read? (trim text)).bind fun d => d.toDouble.finite?

/-- The value as a finite number: numbers themselves, and strings that spell one. -/
def asNumber : Value → Option Finite
  | .int i => (Double.ofInt i.toInt).finite?
  | .float x => x.finite?
  | .string s => numberOfText s.toList
  | _ => none

/-- Null and the empty string, array and object. -/
def isEmpty : Value → Bool
  | .null => true
  | .string s => s.isEmpty
  | .array items => items.isEmpty
  | .object fields => fields.isEmpty
  | _ => false

/-- What messages call the kind of value. -/
def typeName : Value → String
  | .null => "null"
  | .bool _ => "bool"
  | .int _ => "int"
  | .float _ => "float"
  | .string _ => "string"
  | .array _ => "array"
  | .object _ => "object"

end Value
end MatchTree
