import MatchTree.Node.Basic

/-!
The document form of a tree: an object with the fields `name` and `arguments`, or an array
of the two, where the arguments may be left out.

A nested tree stands in its parent's list as an object with the one field `expander`, or as
an array of one item. An argument of any other shape is a literal, so a document is refused
for its outermost shape only. Documents may list fields in any order and more than once.
-/

set_option autoImplicit false
namespace MatchTree
namespace Node

mutual

/-- The tree that a document describes. -/
def ofValue? : Value → Option Node
  | .array [.string name] => some ⟨name, []⟩
  | .array [.string name, .array items] => some ⟨name, argumentsOf items⟩
  | .object fields => ofFields? none none fields
  | _ => none

/-- Gathers the two fields, each at most once; the name has to be there, and fields of other
names do not count. -/
def ofFields? (name? : Option String) (arguments? : Option (List (Argument Node))) :
    List (String × Value) → Option Node
  | [] => name?.map fun name => ⟨name, arguments?.getD []⟩
  | (key, v) :: rest =>
    if key = "name" then
      match v, name? with
      | .string name, none => ofFields? (some name) arguments? rest
      | _, _ => none
    else if key = "arguments" then
      match v, arguments? with
      | .array items, none => ofFields? name? (some (argumentsOf items)) rest
      | _, _ => none
    else ofFields? name? arguments? rest

/-- One argument: a nested tree if the shape is right and the tree is one, else a literal. -/
def argumentOf : Value → Argument Node
  | .object [(key, v)] =>
    if key = "expander" then
      match ofValue? v with
      | some child => .nested child
      | none => .literal (Value.object [(key, v)]).tidy
    else .literal (Value.object [(key, v)]).tidy
  | .array [v] =>
    match ofValue? v with
    | some child => .nested child
    | none => .literal (Value.array [v]).tidy
  | v => .literal v.tidy

def argumentsOf : List Value → List (Argument Node)
  | [] => []
  | v :: rest => argumentOf v :: argumentsOf rest

end

mutual

/-- The document of a tree. -/
def toValue : Node → Value
  | ⟨name, arguments⟩ =>
    .object [("name", .string name), ("arguments", .array (argumentValues arguments))]

def argumentValues : List (Argument Node) → List Value
  | [] => []
  | .literal v :: rest => v :: argumentValues rest
  | .nested child :: rest => .object [("expander", child.toValue)] :: argumentValues rest

end
end Node
end MatchTree
