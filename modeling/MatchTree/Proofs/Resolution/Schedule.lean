import MatchTree.Registry.Resolve

/-!
A resolution written out flat, as one list of tasks.

A name is looked up before the arguments of its node, and its expander is built and examined
after them. A run takes the tasks from left to right and stops at the first that fails; it
keeps what it has built, so that the arguments of a node can be put together from it.
-/

set_option autoImplicit false
namespace MatchTree

/-- Where a node stands in a tree: the positions of the arguments on the way to it. -/
abbrev Place := List Nat

inductive Task
  | lookup (place : Place) (node : Node)
  | construct (place : Place) (node : Node)
  | examine (place : Place) (node : Node)

namespace Task

def place : Task → Place
  | lookup place _ | construct place _ | examine place _ => place

/-- The node that a task builds the expander of. -/
def site? : Task → Option (Place × Node)
  | construct place node => some (place, node)
  | _ => none

end Task

mutual

def schedule (place : Place) : Node → List Task
  | ⟨name, arguments⟩ =>
    .lookup place ⟨name, arguments⟩ :: (scheduleArguments place 0 arguments ++
      [.construct place ⟨name, arguments⟩, .examine place ⟨name, arguments⟩])

def scheduleArguments (place : Place) (position : Nat) : List (Argument Node) → List Task
  | [] => []
  | .literal _ :: rest => scheduleArguments place (position + 1) rest
  | .nested child :: rest =>
    schedule (place ++ [position]) child ++ scheduleArguments place (position + 1) rest

end

mutual

/-- The nodes of a tree with their places, children before their parent. -/
def postorder (place : Place) : Node → List (Place × Node)
  | ⟨name, arguments⟩ => postorderArguments place 0 arguments ++ [(place, ⟨name, arguments⟩)]

def postorderArguments (place : Place) (position : Nat) :
    List (Argument Node) → List (Place × Node)
  | [] => []
  | .literal _ :: rest => postorderArguments place (position + 1) rest
  | .nested child :: rest =>
    postorder (place ++ [position]) child ++ postorderArguments place (position + 1) rest

end

/-- One call of a constructor: for which node, what it was given, and what came of it. -/
structure Construction where
  place : Place
  node : Node
  arguments : Arguments
  log : LogId
  result : Except Failure Product

def Construction.site (c : Construction) : Place × Node := (c.place, c.node)

/-- A run of tasks part way through: the tasks taken, the constructors called, and the failure
that ended it. -/
structure Progress where
  taken : List Task
  constructions : List Construction
  failure : Option Failure

namespace Progress

def start : Progress := ⟨[], [], none⟩

/-- The construction at a place; of several the last. -/
def latest? (p : Progress) (place : Place) : Option Construction :=
  p.constructions.reverse.find? fun c => c.place == place

/-- The expander that was built at a place. -/
def expanderAt? (p : Progress) (place : Place) : Option Expander :=
  match (p.latest? place).map Construction.result with
  | some (.ok (.expander e)) => some e
  | _ => none

/-- The arguments of the node at a place, with what was built at the places of nested ones. -/
def supply (p : Progress) (place : Place) (position : Nat) :
    List (Argument Node) → List (Argument Expander)
  | [] => []
  | .literal v :: rest => .literal v :: p.supply place (position + 1) rest
  | .nested _ :: rest =>
    ((p.expanderAt? (place ++ [position])).map .nested).toList ++
      p.supply place (position + 1) rest

end Progress

/-- Calls the constructor of a name; one that is not bound has none. -/
def Registry.call (registry : Registry) (arguments : Arguments) (log : LogId) :
    Except Failure Product :=
  match registry.lookup arguments.expander with
  | some implementation => implementation.build arguments log
  | none => .error (.unknownExpander arguments.expander)

/-- The call was made for its node, with the log of the resolution, and its result is what the
constructor gave. -/
def Construction.Called (registry : Registry) (log : LogId) (c : Construction) : Prop :=
  c.arguments.expander = c.node.name ∧ c.log = log ∧ c.result = registry.call c.arguments log

namespace Task

/-- The call that a task makes. -/
def construction? (registry : Registry) (log : LogId) (p : Progress) : Task → Option Construction
  | construct place node =>
    let arguments : Arguments := ⟨node.name, p.supply place 0 node.arguments⟩
    some ⟨place, node, arguments, log, registry.call arguments log⟩
  | _ => none

/-- Why a task fails: a name that is not bound, whatever a constructor reports, or something
built that is no expander. -/
def failure? (registry : Registry) (log : LogId) (p : Progress) : Task → Option Failure
  | lookup _ node =>
    match registry.lookup node.name with
    | some _ => none
    | none => some (.unknownExpander node.name)
  | construct place node =>
    match registry.call ⟨node.name, p.supply place 0 node.arguments⟩ log with
    | .ok _ => none
    | .error failure => some failure
  | examine place node =>
    match registry.lookup node.name, p.expanderAt? place with
    | some implementation, none =>
      some (.invalidExpanderType node.name implementation.typeName)
    | _, _ => none

end Task

namespace Progress

/-- Takes one task, unless one has failed. -/
def advance (registry : Registry) (log : LogId) (p : Progress) (task : Task) : Progress :=
  match p.failure with
  | some _ => p
  | none => ⟨p.taken ++ [task], p.constructions ++ (task.construction? registry log p).toList,
      task.failure? registry log p⟩

def run (registry : Registry) (log : LogId) (p : Progress) (tasks : List Task) : Progress :=
  tasks.foldl (advance registry log) p

variable {registry : Registry} {log : LogId} {p : Progress} {tasks : List Task} {failure : Failure}

theorem run_append (first second : List Task) :
    p.run registry log (first ++ second) = (p.run registry log first).run registry log second :=
  List.foldl_append

theorem advance_of_failure (failed : p.failure = some failure) (task : Task) :
    p.advance registry log task = p := by
  simp only [advance, failed]

theorem run_of_failure (failed : p.failure = some failure) (tasks : List Task) :
    p.run registry log tasks = p := by
  induction tasks with
  | nil => rfl
  | cons task rest ih => rw [run, List.foldl_cons, advance_of_failure failed, ← run, ih]

theorem advance_of_running (running : p.failure = none) (task : Task) :
    p.advance registry log task =
      ⟨p.taken ++ [task], p.constructions ++ (task.construction? registry log p).toList,
        task.failure? registry log p⟩ := by
  simp only [advance, running]

variable (registry log)

/-- A run takes tasks from the front, all of them if none fails, and calls a constructor for
each task to construct that it takes. -/
theorem run_takes (running : p.failure = none) (tasks : List Task) :
    ∃ taken constructions, (p.run registry log tasks).taken = p.taken ++ taken ∧
      (p.run registry log tasks).constructions = p.constructions ++ constructions ∧
      taken <+: tasks ∧ ((p.run registry log tasks).failure = none → taken = tasks) ∧
      constructions.map Construction.site = taken.filterMap Task.site? := by
  induction tasks generalizing p with
  | nil => exact ⟨[], [], by simp [run]⟩
  | cons task rest ih =>
    let next := p.advance registry log task
    have site : ((task.construction? registry log p).toList).map Construction.site =
        [task].filterMap Task.site? := by
      cases task <;> rfl
    have step : next = ⟨p.taken ++ [task], p.constructions ++
        (task.construction? registry log p).toList, task.failure? registry log p⟩ :=
      advance_of_running running task
    have unfolded : p.run registry log (task :: rest) = next.run registry log rest := rfl
    cases outcome : next.failure with
    | some failure =>
      refine ⟨[task], (task.construction? registry log p).toList, ?_⟩
      rw [unfolded, run_of_failure outcome]
      exact ⟨by rw [step], by rw [step], ⟨rest, rfl⟩, by simp [outcome], site⟩
    | none =>
      obtain ⟨taken, constructions, took, called, front, all, sites⟩ := ih outcome
      refine ⟨task :: taken, (task.construction? registry log p).toList ++ constructions, ?_⟩
      rw [unfolded, took, called]
      refine ⟨by simp [step], by simp [step], ?_, ?_, ?_⟩
      · exact List.cons_prefix_cons.mpr ⟨rfl, front⟩
      · intro finished
        rw [all finished]
      · rw [List.map_append, site, sites, ← List.filterMap_append, List.singleton_append]

/-- The last task of a run that failed is the first that fails. -/
theorem run_stops (running : p.failure = none) (tasks : List Task)
    (failed : (p.run registry log tasks).failure = some failure) :
    ∃ before task, (p.run registry log tasks).taken = p.taken ++ (before ++ [task]) ∧
      (p.run registry log before).failure = none ∧
      task.failure? registry log (p.run registry log before) = some failure := by
  induction tasks generalizing p with
  | nil =>
    rw [run, List.foldl_nil, running] at failed
    contradiction
  | cons task rest ih =>
    let next := p.advance registry log task
    have step : next = ⟨p.taken ++ [task], p.constructions ++
        (task.construction? registry log p).toList, task.failure? registry log p⟩ :=
      advance_of_running running task
    have unfolded : p.run registry log (task :: rest) = next.run registry log rest := rfl
    rw [unfolded] at failed ⊢
    cases outcome : next.failure with
    | some found =>
      -- this task is the first that fails, and the rest is not taken
      rw [run_of_failure outcome] at failed ⊢
      refine ⟨[], task, by rw [step]; rfl, running, ?_⟩
      rw [← failed, step]
      rfl
    | none =>
      obtain ⟨before, last, took, runs, fails⟩ := ih outcome failed
      refine ⟨task :: before, last, ?_, runs, fails⟩
      rw [took, step, List.append_assoc]
      rfl

theorem run_called (tasks : List Task)
    (called : ∀ c ∈ p.constructions, c.Called registry log) :
    ∀ c ∈ (p.run registry log tasks).constructions, c.Called registry log := by
  induction tasks generalizing p with
  | nil => exact called
  | cons task rest ih =>
    refine ih fun c member => ?_
    cases outcome : p.failure with
    | some failure => exact called c (by rwa [advance_of_failure outcome] at member)
    | none =>
      rw [advance_of_running outcome, List.mem_append] at member
      rcases member with old | new
      · exact called c old
      · cases task with
        | construct place node =>
          obtain rfl := List.mem_singleton.mp new
          exact ⟨rfl, rfl, rfl⟩
        | lookup place node | examine place node => contradiction

end Progress
end MatchTree
