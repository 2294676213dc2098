import MatchTree.Trace.Journal

/-!
How an expander reports: it records under its name in one log, and keeps the error of its
last outcome.
-/

set_option autoImplicit false
namespace MatchTree

structure Reporter where
  name : String
  log : LogId
  error : Option String
  deriving Repr, Inhabited

namespace Reporter

def start (name : String) (log : LogId) : Reporter := ⟨name, log, none⟩

def entrance (r : Reporter) (v : Value) (journal : Journal) : Journal :=
  journal.record r.log ⟨.entrance, r.name, v⟩

def succeed (r : Reporter) (v : Value) (journal : Journal) : Reporter × Journal :=
  ({ r with error := none }, journal.record r.log ⟨.succeed, r.name, v⟩)

def fail (r : Reporter) (v : Value) (error : String) (journal : Journal) : Reporter × Journal :=
  ({ r with error := some error }, journal.record r.log ⟨.failed error, r.name, v⟩)

/-- Reports an outcome; gives whether it is a success. -/
def finish (r : Reporter) (v : Value) (outcome : Except String Unit) (journal : Journal) :
    Bool × Reporter × Journal :=
  match outcome with
  | .ok () => (true, r.succeed v journal)
  | .error error => (false, r.fail v error journal)

end Reporter
end MatchTree
