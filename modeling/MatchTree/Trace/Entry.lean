import MatchTree.Value.Equality
import MatchTree.Value.Text

/-!
What a trace is made of: for each value that an expander looks at, one entry when it begins,
and one when it has succeeded or failed.
-/

set_option autoImplicit false
namespace MatchTree

inductive Stage
  | entrance
  | succeed
  | failed (error : String)
  deriving DecidableEq, Repr, Inhabited

structure Entry where
  stage : Stage
  expander : String
  value : Value
  deriving Repr, Inhabited

namespace Entry

def error? (entry : Entry) : Option String :=
  match entry.stage with
  | .failed error => some error
  | _ => none

def isFailure (entry : Entry) : Bool := entry.error?.isSome

/-- The line that shows an entry. Texts inside an error stand as they are. -/
def text (entry : Entry) : String :=
  let about := " expander " ++ (match entry.stage with
    | .entrance => "entrance"
    | .succeed => "succeed"
    | .failed _ => "failed") ++ ": value " ++ entry.value.text
  let reason := match entry.stage with
    | .failed error => ", error: " ++ error
    | _ => ""
  "#" ++ entry.expander ++ about ++ reason

/-- Same stage, name and error, and strictly equal values. -/
def equals (a b : Entry) : Bool :=
  a.stage == b.stage && a.expander == b.expander && a.value.equals b.value

end Entry

abbrev Log := Array Entry

namespace Log

/-- One line for each entry. -/
def text (log : Log) : String :=
  log.foldl (fun shown entry => shown ++ entry.text ++ "\n") ""

/-- A short text that shows how long a log is. -/
def summary (log : Log) : String :=
  "Backtrace \x7b entries: " ++ toString log.size ++ " \x7d"

def equals (a b : Log) : Bool :=
  a.size == b.size && (a.zip b).all fun (x, y) => x.equals y

end Log
end MatchTree
