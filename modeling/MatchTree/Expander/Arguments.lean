import MatchTree.Expander.Basic
import MatchTree.Failure

/-!
What an expander is built from: its name in the tree, and its arguments with the nested ones
already built. The readers of single arguments say what is wrong in terms of that name.
-/

set_option autoImplicit false
namespace MatchTree

/-- What messages call the kind of an argument. -/
def Argument.kind {ε : Type} : Argument ε → String
  | .literal v => v.typeName
  | .nested _ => "expander"

structure Arguments where
  expander : String
  items : List (Argument Expander)
  deriving Repr

namespace Arguments

def invalid {α : Type} (arguments : Arguments) (fault : ArgumentFault) : Except Failure α :=
  .error (.invalidArgument arguments.expander fault)

/-- Requires a number of arguments within bounds. -/
def checkCount (arguments : Arguments) (min : Nat) (max : Option Nat) : Except Failure Unit :=
  let got := arguments.items.length
  if got < min || max.any (· < got) then
    .error (.argumentCount arguments.expander min max got)
  else .ok ()

def literal (arguments : Arguments) (position : Nat) : Except Failure Value :=
  match arguments.items[position]? with
  | some (.literal v) => .ok v
  | some (.nested _) => arguments.invalid (.notLiteral position)
  | none => arguments.invalid (.missing position)

def string (arguments : Arguments) (position : Nat) : Except Failure String := do
  let v ← arguments.literal position
  match v.asString with
  | some s => return s
  | none => arguments.invalid (.notString position v)

/-- A finite number, or a text that spells one. -/
def number (arguments : Arguments) (position : Nat) : Except Failure Finite := do
  let v ← arguments.literal position
  match v.asNumber with
  | some x => return x
  | none => arguments.invalid (.notNumber position v)

def int (arguments : Arguments) (position : Nat) : Except Failure Int64 := do
  let v ← arguments.literal position
  match v.asInt with
  | some i => return i
  | none => arguments.invalid (.notInteger position v)

/-- A truth value; where the arguments end before it, a given one. -/
def flag (arguments : Arguments) (position : Nat) (otherwise : Bool) : Except Failure Bool :=
  if arguments.items.length ≤ position then .ok otherwise
  else do
    let v ← arguments.literal position
    match v.asBool with
    | some b => return b
    | none => arguments.invalid (.notBoolean position v)

/-- The first argument, of either kind. -/
def first (arguments : Arguments) : Except Failure (Argument Expander) :=
  match arguments.items with
  | argument :: _ => .ok argument
  | [] => arguments.invalid (.missing 0)

/-- All arguments, if none is a literal; `position` is that of the first. -/
def expandersFrom (arguments : Arguments) (position : Nat) :
    List (Argument Expander) → Except Failure (List Expander)
  | [] => .ok []
  | .nested e :: rest => do return e :: (← expandersFrom arguments (position + 1) rest)
  | .literal v :: _ => arguments.invalid (.notExpander position v)

def expanders (arguments : Arguments) : Except Failure (List Expander) :=
  arguments.expandersFrom 0 arguments.items

def literals (arguments : Arguments) : List Value :=
  arguments.items.filterMap fun argument =>
    match argument with
    | .literal v => some v
    | .nested _ => none

end Arguments
end MatchTree
