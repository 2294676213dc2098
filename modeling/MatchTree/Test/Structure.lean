import MatchTree.Value.Equality
import MatchTree.Test.Mismatch

/-!
Holding a value against a literal pattern, part by part.

An object has to have every key of the pattern; if the comparison is strict, it has no
others. An array has the pattern's length. Any other two are compared loosely. Of several
differences the first is reported, keys in ascending order, with the way to it.
-/

set_option autoImplicit false
namespace MatchTree.Structure

mutual

def compare (strict : Bool) : (pattern actual : Value) → Except Mismatch Unit
  | .object expected, .object found => do
    compareFields strict found (.object found) expected
    if strict then
      match found.find? fun field => !Table.contains expected field.1 with
      | some field => throw (.extraKey field.1 (.object found))
      | none => return ()
  | .array expected, .array found =>
    if expected.length = found.length then compareItems strict 0 expected found
    else throw (.wrongLength (.array found) found.length expected.length)
  | pattern, actual =>
    if pattern.looselyEquals actual then return () else throw (.differs actual pattern)

def compareFields (strict : Bool) (found : Fields) (actual : Value) :
    List (String × Value) → Except Mismatch Unit
  | [] => return ()
  | (key, pattern) :: rest =>
    match found.get? key with
    | none => throw (.missingKey key actual)
    | some v => do
      (compare strict pattern v).mapError (.atKey key)
      compareFields strict found actual rest

def compareItems (strict : Bool) (index : Nat) : List Value → List Value → Except Mismatch Unit
  | pattern :: patterns, v :: rest => do
    (compare strict pattern v).mapError (.atIndex index)
    compareItems strict (index + 1) patterns rest
  | _, _ => return ()

end
end MatchTree.Structure
