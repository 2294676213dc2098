import MatchTree.Trace.Entry

/-!
Logs that several writers share. A writer holds the number of its log; what it records, every
writer of the same log sees, and no other.

A journal may also be reached through numbered handles, each for one log. A copy of a handle
is for the same log; a new handle is for a log of its own.
-/

set_option autoImplicit false
namespace MatchTree

abbrev LogId := Nat

structure Journal where
  logs : Array Log
  deriving Repr, Inhabited

namespace Journal

def empty : Journal := ⟨#[]⟩

/-- Adds an empty log. -/
def addLog (journal : Journal) : LogId × Journal :=
  (journal.logs.size, ⟨journal.logs.push #[]⟩)

def log (journal : Journal) (id : LogId) : Log := journal.logs[id]?.getD #[]

def record (journal : Journal) (id : LogId) (entry : Entry) : Journal :=
  ⟨journal.logs.modify id fun log => log.push entry⟩

end Journal

/-- Handles by number, each with its log. -/
structure Handles where
  journal : Journal
  targets : Array LogId
  deriving Repr, Inhabited

namespace Handles

/-- One handle, for an empty log. -/
def start : Handles :=
  let (id, journal) := Journal.empty.addLog
  ⟨journal, #[id]⟩

/-- The log of a handle; a handle that does not exist has none. -/
def target? (handles : Handles) (handle : Nat) : Option LogId := handles.targets[handle]?

def log (handles : Handles) (handle : Nat) : Log :=
  match handles.target? handle with
  | some id => handles.journal.log id
  | none => #[]

/-- Adds a handle for a log of its own. -/
def fresh (handles : Handles) : Handles :=
  let (id, journal) := handles.journal.addLog
  ⟨journal, handles.targets.push id⟩

/-- Adds another handle for the log of a handle. -/
def copy (handles : Handles) (handle : Nat) : Handles :=
  match handles.target? handle with
  | some id => { handles with targets := handles.targets.push id }
  | none => handles

def record (handles : Handles) (handle : Nat) (entry : Entry) : Handles :=
  match handles.target? handle with
  | some id => { handles with journal := handles.journal.record id entry }
  | none => handles

/-- Whether two handles are for one log. -/
def sameLog (handles : Handles) (a b : Nat) : Bool := handles.target? a == handles.target? b

end Handles
end MatchTree
