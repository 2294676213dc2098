import MatchTree.Registry.Basic

/-!
Resolving a pattern tree: every name becomes the expander that its implementation builds.

A name is looked up before its arguments are resolved, from left to right, and its expander
is built after them. The first failure ends the resolution. `Step` tells what a resolution
did: reached a node, descended to an argument, called for an expander to be built.
-/

set_option autoImplicit false
namespace MatchTree

inductive Step
  | reached (name : String) (arguments depth : Nat)
  | descended (name : String) (position : Nat) (child : String)
  | built (arguments : Arguments) (log : LogId)
  deriving Repr

/-- What a step announces; building is not announced. -/
def Step.event? : Step → Option Event
  | reached name arguments depth => some (.resolving name arguments depth)
  | descended name position child => some (.resolvingNested name position child)
  | built _ _ => none

namespace Registry

/-- What an implementation builds for a name, if it is an expander. -/
def construct (implementation : Implementation) (arguments : Arguments) (log : LogId) :
    Except Failure Expander := do
  match ← implementation.build arguments log with
  | .expander e => return e
  | .foreign => throw (.invalidExpanderType arguments.expander implementation.typeName)

mutual

def resolveAt (registry : Registry) (log : LogId) (depth : Nat) :
    Node → Except Failure Expander × List Step
  | ⟨name, arguments⟩ =>
    match registry.lookup name with
    | none => (.error (.unknownExpander name), [])
    | some implementation =>
      let reached := Step.reached name arguments.length depth
      match resolveArguments registry log depth name 0 arguments with
      | (.error failure, steps) => (.error failure, reached :: steps)
      | (.ok items, steps) =>
        let built : Arguments := ⟨name, items⟩
        (construct implementation built log, reached :: (steps ++ [.built built log]))

def resolveArguments (registry : Registry) (log : LogId) (depth : Nat) (name : String)
    (position : Nat) :
    List (Argument Node) → Except Failure (List (Argument Expander)) × List Step
  | [] => (.ok [], [])
  | .literal v :: rest =>
    let (items, steps) := resolveArguments registry log depth name (position + 1) rest
    (items.map (.literal v :: ·), steps)
  | .nested child :: rest =>
    let descended := Step.descended name position child.name
    match resolveAt registry log (depth + 1) child with
    | (.error failure, steps) => (.error failure, descended :: steps)
    | (.ok e, steps) =>
      let (items, later) := resolveArguments registry log depth name (position + 1) rest
      (items.map (.nested e :: ·), descended :: (steps ++ later))

end

/-- The expander of a tree, with what resolving it did. All that is built records in one log. -/
def resolve (registry : Registry) (node : Node) (log : LogId) :
    Except Failure Expander × List Step :=
  registry.resolveAt log 0 node

end Registry
end MatchTree
