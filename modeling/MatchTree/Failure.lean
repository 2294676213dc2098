import MatchTree.Value.Text

/-!
Why a pattern tree cannot be resolved or a registry changed, with the wording of each cause.
-/

set_option autoImplicit false
namespace MatchTree

/-- What is wrong with an argument. Positions count from zero and are shown from one. -/
inductive ArgumentFault
  | missing (position : Nat)
  | notLiteral (position : Nat)
  | notString (position : Nat) (found : Value)
  | notNumber (position : Nat) (found : Value)
  | notInteger (position : Nat) (found : Value)
  | notBoolean (position : Nat) (found : Value)
  | notExpander (position : Nat) (found : Value)
  | negativeCount (found : Int64)
  | notDate (found : String)
  | other (reason : String)
  deriving Repr

def ArgumentFault.reason : ArgumentFault → String
  | missing position => s!"argument {position + 1} is missing"
  | notLiteral position => s!"argument {position + 1} must be a literal, got expander"
  | notString position found => s!"argument {position + 1} must be a string, got {found.typeName}"
  | notNumber position found => s!"argument {position + 1} must be a number, got {found.text}"
  | notInteger position found =>
    s!"argument {position + 1} must be an integer, got {found.typeName}"
  | notBoolean position found =>
    s!"argument {position + 1} must be a boolean, got {found.typeName}"
  | notExpander position found =>
    s!"argument {position + 1} must be an expander, got {found.typeName}"
  | negativeCount found => s!"count must not be negative, got {found.toInt}"
  | notDate found => s!"argument 1 must be a date, got {inQuotes found}"
  | other reason => reason

inductive Failure
  | unknownImplementation (identifier : String)
  | undefinedExpander (name : String)
  | unknownExpander (name : String)
  | invalidExpanderType (name typeName : String)
  | argumentCount (expander : String) (min : Nat) (max : Option Nat) (got : Nat)
  | invalidArgument (expander : String) (fault : ArgumentFault)
  | invalidPattern (expander pattern reason : String)
  | invalidConfig (reason : String)
  deriving Repr

namespace Failure

/-- The name of the kind of failure, as fixtures write it. -/
def kind : Failure → String
  | unknownImplementation _ => "UnknownImplementation"
  | undefinedExpander _ => "UndefinedExpander"
  | unknownExpander _ => "UnknownExpander"
  | invalidExpanderType _ _ => "InvalidExpanderType"
  | argumentCount _ _ _ _ => "ArgumentCount"
  | invalidArgument _ _ => "InvalidArgument"
  | invalidPattern _ _ _ => "InvalidPattern"
  | invalidConfig _ => "InvalidConfig"

def countedArguments (n : Nat) : String :=
  s!"{n} " ++ if n = 1 then "argument" else "arguments"

/-- How many arguments an expander takes. -/
def arityText (min : Nat) : Option Nat → String
  | none => "at least " ++ countedArguments min
  | some max => if max = min then countedArguments min else s!"{min} to {max} arguments"

def message : Failure → String
  | unknownImplementation identifier =>
    s!"unknown expander implementation {inQuotes identifier}"
  | undefinedExpander name => s!"expander {inQuotes name} is not defined"
  | unknownExpander name => s!"unknown expander {inQuotes name}"
  | invalidExpanderType name typeName =>
    s!"expander {inQuotes name} is registered to {typeName}, which is not a pattern expander"
  | argumentCount expander min max got =>
    s!"expander {inQuotes expander} expects {arityText min max}, got {got}"
  | invalidArgument expander fault =>
    s!"invalid argument for expander {inQuotes expander}: {fault.reason}"
  | invalidPattern expander pattern reason =>
    s!"invalid pattern {inQuotes pattern} for expander {inQuotes expander}: {reason}"
  | invalidConfig reason => s!"invalid config: {reason}"

end Failure
end MatchTree
