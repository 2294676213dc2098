import MatchTree.Expander.Kind

/-!
Implementations: how to build what a name stands for. What is built need not be an expander.
-/

set_option autoImplicit false
namespace MatchTree

inductive Product
  | expander (e : Expander)
  | foreign
  deriving Repr

structure Implementation where
  typeName : String
  build : Arguments → LogId → Except Failure Product

namespace Implementation

/-- Builds expanders of a kind. -/
def ofKind (kind : Kind) : Implementation where
  typeName := kind.typeName
  build arguments log := (kind.build arguments log).map .expander

/-- Builds something that is no expander. -/
def foreign (typeName : String) : Implementation where
  typeName := typeName
  build _ _ := .ok .foreign

/-- The text that shows an implementation. -/
def text (implementation : Implementation) : String :=
  "Implementation(" ++ quote implementation.typeName ++ ")"

end Implementation
end MatchTree
