import MatchTree.Expander.Run
import MatchTree.Registry.Change
import MatchTree.Registry.Resolve

/-!
A registry in use: expanders resolved from it stay alive, each with its memory, while the
registry goes on changing. They record in logs that are opened by name.

`Session.resolve` and `Session.run` are the only operations on expanders; the others change
the registry and leave expanders and logs alone.
-/

set_option autoImplicit false
namespace MatchTree

/-- An expander that was resolved, with what it remembers. -/
structure Instance where
  expander : Expander
  memory : Memory
  deriving Repr

structure Session where
  registry : Registry
  saved : List Registry
  journal : Journal
  traces : Table LogId
  instances : Table Instance

namespace Session

def start (registry : Registry) : Session := ⟨registry, [], .empty, [], []⟩

/-- The log of a name; it is opened on first use. -/
def trace (session : Session) (name : String) : LogId × Session :=
  match session.traces.get? name with
  | some log => (log, session)
  | none =>
    let (log, journal) := session.journal.addLog
    (log, { session with journal := journal, traces := session.traces.insert name log })

/-- Resolves a tree and keeps the expander under a name; a failure keeps what was there. -/
def resolve (session : Session) (id : String) (node : Node) (trace : String) :
    Except Failure Instance × List Step × Session :=
  let (log, session) := session.trace trace
  let (outcome, steps) := session.registry.resolve node log
  match outcome with
  | .ok e =>
    let created : Instance := ⟨e, .fresh⟩
    (.ok created, steps, { session with instances := session.instances.insert id created })
  | .error failure => (.error failure, steps, session)

/-- Runs an expander that is kept under a name. -/
def run (session : Session) (id : String) (v : Value) : Option (Pass × Session) := do
  let kept ← session.instances.get? id
  let pass := kept.expander.run kept.memory v session.journal
  let instances := session.instances.insert id ⟨kept.expander, pass.memory⟩
  return (pass, { session with journal := pass.journal, instances := instances })

def save (session : Session) : Session :=
  { session with saved := session.registry :: session.saved }

/-- Goes back to the registry saved last, if there is one. -/
def restore (session : Session) : Session :=
  match session.saved with
  | registry :: rest => { session with registry := registry, saved := rest }
  | [] => session

/-- What may be asked of a session. -/
inductive Call
  | change (change : Change)
  | save
  | restore
  | resolve (id : String) (node : Node) (trace : String)
  | run (id : String) (v : Value)

/-- The session after one call. To run what is not there changes nothing. -/
def step (session : Session) : Call → Session
  | .change change => { session with registry := session.registry.after change }
  | .save => session.save
  | .restore => session.restore
  | .resolve id node trace => (session.resolve id node trace).2.2
  | .run id v =>
    match session.run id v with
    | some (_, session) => session
    | none => session

def perform (session : Session) (calls : List Call) : Session := calls.foldl step session

end Session
end MatchTree
