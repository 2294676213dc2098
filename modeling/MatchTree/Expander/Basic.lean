import MatchTree.Node.Basic
import MatchTree.Test.Basic
import MatchTree.Trace.Journal

/-!
Expanders, ready to be run: a tree that holds what its nodes were built with, among it the
log that each of them records in. What runs leave behind is kept apart from it, in `Memory`.
-/

set_option autoImplicit false
namespace MatchTree

/-- A pattern is a literal or another expander.

`test` looks at the value alone; `oneOf` tries its children in order; `each` holds every item
of an array against a pattern, and `structural` the value itself; `record` accepts everything
and keeps what it was given; `silent` refuses everything and `impostor` accepts everything,
and neither records an outcome. -/
inductive Expander
  | test (log : LogId) (test : Test)
  | oneOf (log : LogId) (children : List Expander)
  | each (log : LogId) (pattern : Argument Expander) (strict : Bool)
  | structural (log : LogId) (pattern : Argument Expander)
  | record (log : LogId) (literals : List Value) (nested : Nat)
  | silent (log : LogId)
  | impostor (log : LogId)
  deriving Repr

namespace Expander

/-- The name an expander reports under. -/
def name : Expander → String
  | test _ t => t.title
  | oneOf _ _ => "oneOf"
  | each _ _ _ => "repeat"
  | structural _ _ => "match"
  | record _ _ _ => "record"
  | silent _ => "silent"
  | impostor _ => "startsWith"

def log : Expander → LogId
  | test log _ | oneOf log _ | each log _ _ | structural log _ | record log _ _
  | silent log | impostor log => log

end Expander

/-- What an expander remembers of its last run: its error, how many items matched, and what
the expanders inside it remember. -/
structure Memory where
  error : Option String
  matched : Nat
  children : List Memory
  deriving Repr

namespace Memory

/-- Before the first run. What is missing in a list of memories is fresh too. -/
def fresh : Memory := ⟨none, 0, []⟩

instance : Inhabited Memory := ⟨fresh⟩

def first (memories : List Memory) : Memory := memories.head?.getD fresh

end Memory
end MatchTree
