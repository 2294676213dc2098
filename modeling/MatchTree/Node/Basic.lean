import MatchTree.Value.Equality

/-!
Pattern trees as written: the name of an expander and its arguments, each a literal value or
another tree.
-/

set_option autoImplicit false
namespace MatchTree

/-- What stands in an argument position: a literal, or something of the nested kind. -/
inductive Argument (ε : Type)
  | literal (v : Value)
  | nested (e : ε)
  deriving Repr, Inhabited

structure Node where
  name : String
  arguments : List (Argument Node)
  deriving Repr

namespace Node

instance : Inhabited Node := ⟨⟨"", []⟩⟩

def withLiteral (n : Node) (v : Value) : Node :=
  { n with arguments := n.arguments ++ [.literal v] }

def withNested (n child : Node) : Node :=
  { n with arguments := n.arguments ++ [.nested child] }

mutual

/-- How many trees lie within each other at most, this one counted. -/
def depth : Node → Nat
  | ⟨_, arguments⟩ => depthOfArguments arguments + 1

def depthOfArguments : List (Argument Node) → Nat
  | [] => 0
  | .literal _ :: rest => depthOfArguments rest
  | .nested child :: rest => max child.depth (depthOfArguments rest)

end

mutual

/-- Every name in the tree, a parent's before its children's. -/
def names : Node → List String
  | ⟨name, arguments⟩ => name :: namesOfArguments arguments

def namesOfArguments : List (Argument Node) → List String
  | [] => []
  | .literal _ :: rest => namesOfArguments rest
  | .nested child :: rest => child.names ++ namesOfArguments rest

end

mutual

/-- Same names and strictly equal literals; a tree with a NaN in it equals none. -/
def equals : Node → Node → Bool
  | ⟨name, arguments⟩, ⟨name', arguments'⟩ =>
    name == name' && equalArguments arguments arguments'

def equalArguments : List (Argument Node) → List (Argument Node) → Bool
  | [], [] => true
  | .literal v :: rest, .literal v' :: rest' => v.equals v' && equalArguments rest rest'
  | .nested child :: rest, .nested child' :: rest' =>
    child.equals child' && equalArguments rest rest'
  | _, _ => false

end
end Node
end MatchTree
