import MatchTree.Proofs.Resolution.Places

/-!
Resolving a tree is running its schedule.

The recursion over the tree and the run over the flat list fail alike, call the same
constructors with the same arguments, and end with the same expander.
-/

set_option autoImplicit false
namespace MatchTree

/-- What a step says of a constructor that was called. -/
def Step.construction? : Step → Option (Arguments × LogId)
  | built arguments log => some (arguments, log)
  | _ => none

/-- What stands for an argument: a literal for itself, and for a nested node the expander that
was built at its place. -/
def Supplies (built : List Construction) (place : Place) : Argument Node → Argument Expander → Prop
  | .literal v, item => item = .literal v
  | .nested child, item => ∃ c ∈ built, c.place = place ∧ c.node = child ∧
      ∃ e, c.result = .ok (.expander e) ∧ item = .nested e

/-- One item for each argument from a position on, and the right one. -/
structure Supplied (built : List Construction) (place : Place) (position : Nat)
    (arguments : List (Argument Node)) (items : List (Argument Expander)) : Prop where
  length : items.length = arguments.length
  each : ∀ (i : Nat) (argument : Argument Node), arguments[i]? = some argument →
    ∃ item, items[i]? = some item ∧ Supplies built (place ++ [position + i]) argument item

theorem Supplies.mono {built more : List Construction} {place : Place} {argument : Argument Node}
    {item : Argument Expander} (subset : built ⊆ more)
    (supplies : Supplies built place argument item) :
    Supplies more place argument item := by
  cases argument with
  | literal v => exact supplies
  | nested child =>
    obtain ⟨c, member, rest⟩ := supplies
    exact ⟨c, subset member, rest⟩

namespace Supplied
variable {built : List Construction} {place : Place} {position : Nat}

theorem nil : Supplied built place position [] [] := ⟨rfl, by simp⟩

theorem cons {argument : Argument Node} {item : Argument Expander}
    {arguments : List (Argument Node)} {items : List (Argument Expander)}
    (first : Supplies built (place ++ [position]) argument item)
    (rest : Supplied built place (position + 1) arguments items) :
    Supplied built place position (argument :: arguments) (item :: items) := by
  refine ⟨by simp [rest.length], fun i found same => ?_⟩
  cases i with
  | zero =>
    obtain rfl : argument = found := by simpa using same
    exact ⟨item, rfl, first⟩
  | succ i =>
    obtain ⟨later, there, supplies⟩ := rest.each i found (by simpa using same)
    refine ⟨later, by simpa using there, ?_⟩
    rwa [show position + (i + 1) = position + 1 + i by omega]

theorem mono {more : List Construction} {arguments : List (Argument Node)}
    {items : List (Argument Expander)} (subset : built ⊆ more)
    (supplied : Supplied built place position arguments items) :
    Supplied more place position arguments items := by
  refine ⟨supplied.length, fun i argument same => ?_⟩
  obtain ⟨item, there, supplies⟩ := supplied.each i argument same
  exact ⟨item, there, supplies.mono subset⟩

end Supplied

/-- The constructor got the arguments of its node. -/
def Construction.Supplied (built : List Construction) (c : Construction) : Prop :=
  MatchTree.Supplied built c.place 0 c.node.arguments c.arguments.items

/-- What a stretch of a run adds to the constructions, where, and as which steps. -/
structure Adds (within : Place → Prop) (steps : List Step) (p q : Progress)
    (new : List Construction) : Prop where
  constructions : q.constructions = p.constructions ++ new
  places : ∀ c ∈ new, within c.place
  reported : new.map (fun c => (c.arguments, c.log)) = steps.filterMap Step.construction?
  supplied : ∀ c ∈ new, c.Supplied q.constructions

namespace Adds
variable {within : Place → Prop} {steps later : List Step} {p q r : Progress}
  {new more : List Construction}

theorem none (same : q.constructions = p.constructions)
    (silent : steps.filterMap Step.construction? = []) : Adds within steps p q [] :=
  ⟨by simp [same], by simp, silent.symm, by simp⟩

theorem trans (first : Adds within steps p q new) (second : Adds within later q r more) :
    Adds within (steps ++ later) p r (new ++ more) := by
  refine ⟨?_, ?_, ?_, ?_⟩
  · rw [second.constructions, first.constructions, List.append_assoc]
  · intro c member
    exact (List.mem_append.mp member).elim (first.places c) (second.places c)
  · rw [List.map_append, List.filterMap_append, first.reported, second.reported]
  · intro c member
    rcases List.mem_append.mp member with old | added
    · refine (first.supplied c old).mono ?_
      rw [second.constructions]
      exact List.subset_append_left _ _
    · exact second.supplied c added

/-- Steps that call no constructor do not count. -/
theorem cons {step : Step} (silent : step.construction? = Option.none)
    (adds : Adds within steps p q new) : Adds within (step :: steps) p q new :=
  ⟨adds.constructions, adds.places, by rw [adds.reported, List.filterMap_cons_none silent],
    adds.supplied⟩

theorem widen {wider : Place → Prop} (all : ∀ place, within place → wider place)
    (adds : Adds within steps p q new) : Adds wider steps p q new :=
  ⟨adds.constructions, fun c member => all _ (adds.places c member), adds.reported, adds.supplied⟩

end Adds

namespace Progress
variable {p q : Progress} {place : Place}

theorem latest?_append {new : List Construction}
    (grown : q.constructions = p.constructions ++ new)
    (elsewhere : ∀ c ∈ new, c.place ≠ place) : q.latest? place = p.latest? place := by
  have missing : new.reverse.find? (fun c => c.place == place) = none := by
    simpa [List.find?_eq_none] using elsewhere
  rw [latest?, grown, List.reverse_append, List.find?_append, missing, Option.none_or]
  rfl

theorem latest?_concat {c : Construction} (grown : q.constructions = p.constructions ++ [c]) :
    q.latest? c.place = some c := by
  simp [latest?, grown]

/-- What was built last at a place is an expander, for a node. -/
def Holds (p : Progress) (place : Place) (node : Node) (e : Expander) : Prop :=
  ∃ c, p.latest? place = some c ∧ c.node = node ∧ c.result = .ok (.expander e)

theorem Holds.expanderAt? {node : Node} {e : Expander} (holds : p.Holds place node e) :
    p.expanderAt? place = some e := by
  obtain ⟨c, last, _, result⟩ := holds
  simp [Progress.expanderAt?, last, result]

theorem Holds.supplies {node : Node} {e : Expander} (holds : p.Holds place node e) :
    Supplies p.constructions place (.nested node) (.nested e) := by
  obtain ⟨c, last, same, result⟩ := holds
  have member : c ∈ p.constructions := by simpa using List.mem_of_find?_eq_some last
  have here : c.place = place := by simpa using List.find?_some last
  exact ⟨c, member, here, same, e, result, rfl⟩

theorem Holds.append {node : Node} {e : Expander} {new : List Construction}
    (holds : p.Holds place node e) (grown : q.constructions = p.constructions ++ new)
    (elsewhere : ∀ c ∈ new, c.place ≠ place) : q.Holds place node e := by
  obtain ⟨c, last, rest⟩ := holds
  exact ⟨c, (latest?_append grown elsewhere).trans last, rest⟩

end Progress

/-- A run failed as a resolution did, or has not failed and shows what was resolved. -/
def Agrees {α : Type} (outcome : Except Failure α) (q : Progress) (shows : α → Prop) : Prop :=
  match outcome with
  | .ok x => q.failure = none ∧ shows x
  | .error failure => q.failure = some failure

namespace Progress
variable {registry : Registry} {log : LogId} {p : Progress}

theorem run_cons (task : Task) (rest : List Task) :
    p.run registry log (task :: rest) = (p.advance registry log task).run registry log rest := rfl

theorem advance_lookup {implementation : Implementation} (place : Place) (node : Node)
    (running : p.failure = none) (bound : registry.lookup node.name = some implementation) :
    p.advance registry log (.lookup place node) =
      ⟨p.taken ++ [.lookup place node], p.constructions, none⟩ := by
  simp [advance_of_running running, Task.construction?, Task.failure?, bound]

theorem failure_advance_lookup (place : Place) (node : Node) (running : p.failure = none)
    (unbound : registry.lookup node.name = none) :
    (p.advance registry log (.lookup place node)).failure = some (.unknownExpander node.name) := by
  simp [advance_of_running running, Task.failure?, unbound]

/-- Building and examining the expander of a node whose arguments are there. -/
theorem run_construct {implementation : Implementation} (place : Place) (node : Node)
    {items : List (Argument Expander)} (running : p.failure = none)
    (bound : registry.lookup node.name = some implementation)
    (supply : p.supply place 0 node.arguments = items)
    (supplied : Supplied p.constructions place 0 node.arguments items) :
    let arguments : Arguments := ⟨node.name, items⟩
    let q := p.run registry log [.construct place node, .examine place node]
    ∃ new, Adds (place <+: ·) [.built arguments log] p q new ∧
      Agrees (Registry.construct implementation arguments log) q fun e => q.Holds place node e := by
  intro arguments q
  let c : Construction := ⟨place, node, arguments, log, implementation.build arguments log⟩
  let built := p.advance registry log (.construct place node)
  have grown : built.constructions = p.constructions ++ [c] := by
    simp [built, advance_of_running running, Task.construction?, supply, Registry.call, bound, c,
      arguments]
  have last : built.latest? place = some c := latest?_concat grown
  have call : registry.call arguments log = implementation.build arguments log := by
    simp only [Registry.call, arguments, bound]
  have failure : built.failure = (Task.construct place node).failure? registry log p := by
    simp only [built, advance_of_running running]
  simp only [Task.failure?, supply] at failure
  have adds (same : q.constructions = built.constructions) :
      Adds (place <+: ·) [.built arguments log] p q [c] := by
    refine ⟨same.trans grown, by simp [c], rfl, fun d member => ?_⟩
    obtain rfl := List.mem_singleton.mp member
    refine Supplied.mono ?_ supplied
    rw [same, grown]
    exact List.subset_append_left _ _
  have unfolded : q = built.advance registry log (.examine place node) := rfl
  refine ⟨[c], ?_⟩
  cases outcome : implementation.build arguments log with
  | error found =>
    -- nothing was built, so there is nothing to examine
    have failed : built.failure = some found := by rw [failure, call, outcome]
    rw [advance_of_failure failed] at unfolded
    refine ⟨adds (by rw [unfolded]), ?_⟩
    simpa [Agrees, Registry.construct, outcome, unfolded, bind, Except.bind] using failed
  | ok product =>
    have runs : built.failure = none := by rw [failure, call, outcome]
    rw [advance_of_running runs] at unfolded
    have same : q.constructions = built.constructions := by
      rw [unfolded]
      exact List.append_nil _
    refine ⟨adds same, ?_⟩
    cases product with
    | expander e =>
      have holds : built.Holds place node e := ⟨c, last, rfl, outcome⟩
      simp only [Agrees, Registry.construct, outcome, bind, Except.bind, pure, Except.pure]
      refine ⟨?_, holds.append (same.trans (List.append_nil _).symm) (by simp)⟩
      simp [unfolded, Task.failure?, bound, holds.expanderAt?]
    | foreign =>
      have missing : built.expanderAt? place = none := by simp [expanderAt?, last, c, outcome]
      simp [Agrees, Registry.construct, outcome, unfolded, Task.failure?, bound, missing, bind,
        Except.bind, arguments, throw, throwThe, MonadExceptOf.throw]

/-- The arguments of a node as they can be put together, which is as they should be. -/
def Shows (q : Progress) (place : Place) (position : Nat) (arguments : List (Argument Node))
    (items : List (Argument Expander)) : Prop :=
  q.supply place position arguments = items ∧
    Supplied q.constructions place position arguments items

theorem agrees_cons {q : Progress} {place : Place} {position : Nat} {argument : Argument Node}
    {item : Argument Expander} {rest : List (Argument Node)}
    {outcome : Except Failure (List (Argument Expander))}
    (supply : q.supply place position (argument :: rest) =
      item :: q.supply place (position + 1) rest)
    (supplies : Supplies q.constructions (place ++ [position]) argument item)
    (agrees : Agrees outcome q (q.Shows place (position + 1) rest)) :
    Agrees (outcome.map (item :: ·)) q (q.Shows place position (argument :: rest)) := by
  cases outcome with
  | error failure => exact agrees
  | ok items =>
    obtain ⟨runs, same, supplied⟩ := agrees
    exact ⟨runs, by rw [supply, same], .cons supplies supplied⟩

variable (registry : Registry) (log : LogId)

mutual

/-- Running the schedule of a node, from wherever a run has come to. -/
theorem run_schedule : ∀ (node : Node) (depth : Nat) (place : Place) (p : Progress),
    p.failure = none →
    ∃ new, Adds (place <+: ·) (registry.resolveAt log depth node).2 p
        (p.run registry log (schedule place node)) new ∧
      Agrees (registry.resolveAt log depth node).1 (p.run registry log (schedule place node))
        ((p.run registry log (schedule place node)).Holds place node)
  | ⟨name, arguments⟩, depth, place, p, running => by
    rw [schedule, run_cons]
    cases bound : registry.lookup name with
    | none =>
      have failed : (p.advance registry log (.lookup place ⟨name, arguments⟩)).failure =
          some (.unknownExpander name) := failure_advance_lookup place _ running bound
      rw [run_of_failure failed]
      simp only [Registry.resolveAt, bound]
      refine ⟨[], .none ?_ rfl, failed⟩
      rw [advance_of_running running]
      exact List.append_nil _
    | some implementation =>
      rw [advance_lookup place _ running bound, run_append]
      generalize entered : Progress.mk (p.taken ++ [.lookup place ⟨name, arguments⟩])
        p.constructions none = begun
      have runs : begun.failure = none := by rw [← entered]
      have same : begun.constructions = p.constructions := by rw [← entered]
      have none : Adds (place <+: ·) [.reached name arguments.length depth] p begun [] :=
        .none same rfl
      -- the arguments come between the name and its expander
      obtain ⟨new, adds, agrees⟩ := run_scheduleArguments arguments depth name 0 place begun runs
      generalize begun.run registry log (scheduleArguments place 0 arguments) = q at adds agrees
      have inside := none.trans (adds.widen fun _ below => below.inside)
      rcases resolved : registry.resolveArguments log depth name 0 arguments with ⟨outcome, steps⟩
      rw [resolved] at agrees inside
      simp only [Registry.resolveAt, bound, resolved]
      cases outcome with
      | error failure =>
        rw [run_of_failure agrees]
        exact ⟨_, inside, agrees⟩
      | ok items =>
        obtain ⟨runs, supply, supplied⟩ := agrees
        obtain ⟨last, built, ends⟩ :=
          run_construct place ⟨name, arguments⟩ runs bound supply supplied
        exact ⟨_, inside.trans built, ends⟩

/-- Running what a schedule holds for the arguments from a position on. -/
theorem run_scheduleArguments : ∀ (arguments : List (Argument Node)) (depth : Nat)
    (name : String) (position : Nat) (place : Place) (p : Progress), p.failure = none →
    ∃ new, Adds (place.Below position)
        (registry.resolveArguments log depth name position arguments).2 p
        (p.run registry log (scheduleArguments place position arguments)) new ∧
      Agrees (registry.resolveArguments log depth name position arguments).1
        (p.run registry log (scheduleArguments place position arguments))
        ((p.run registry log (scheduleArguments place position arguments)).Shows place position
          arguments)
  | [], depth, name, position, place, p, running => ⟨[], .none rfl rfl, running, rfl, .nil⟩
  | .literal v :: rest, depth, name, position, place, p, running => by
    obtain ⟨new, adds, agrees⟩ :=
      run_scheduleArguments rest depth name (position + 1) place p running
    exact ⟨new, adds.widen fun _ below => below.mono (by omega), agrees_cons rfl rfl agrees⟩
  | .nested child :: rest, depth, name, position, place, p, running => by
    rw [scheduleArguments, run_append]
    obtain ⟨new, adds, agrees⟩ := run_schedule child (depth + 1) (place ++ [position]) p running
    generalize p.run registry log (schedule (place ++ [position]) child) = middle at adds agrees
    have inside := adds.widen fun _ front => Place.Below.of_front front
    rcases resolved : registry.resolveAt log (depth + 1) child with ⟨outcome, steps⟩
    rw [resolved] at agrees inside
    simp only [Registry.resolveArguments, resolved]
    cases outcome with
    | error failure =>
      rw [run_of_failure agrees]
      exact ⟨new, inside.cons rfl, agrees⟩
    | ok e =>
      obtain ⟨runs, holds⟩ := agrees
      obtain ⟨more, later, ends⟩ :=
        run_scheduleArguments rest depth name (position + 1) place middle runs
      have both := inside.trans (later.widen fun _ below => below.mono (by omega))
      -- What is built for later arguments leaves the expander of this one in its place.
      have kept := holds.append later.constructions fun c member same =>
        (later.places c member).not_earlier (same ▸ List.prefix_rfl)
      refine ⟨new ++ more, both.cons rfl, agrees_cons ?_ kept.supplies ends⟩
      simp only [supply, kept.expanderAt?, Option.map_some, Option.toList_some,
        List.singleton_append]

end

end Progress
namespace Agrees
variable {α : Type} {outcome : Except Failure α} {q : Progress} {shows : α → Prop}

theorem error_iff (agrees : Agrees outcome q shows) (failure : Failure) :
    outcome = .error failure ↔ q.failure = some failure := by
  cases outcome with
  | error found =>
    have failed : q.failure = some found := agrees
    simp [failed]
  | ok x => simp [agrees.1]

theorem succeeds_iff (agrees : Agrees outcome q shows) :
    (∃ x, outcome = .ok x) ↔ q.failure = none := by
  cases outcome with
  | error found =>
    have failed : q.failure = some found := agrees
    simp [failed]
  | ok x => simp [agrees.1]

theorem ok_iff {outcome : Except Failure Expander} {place : Place} {node : Node}
    (agrees : Agrees outcome q (q.Holds place node)) (e : Expander) :
    outcome = .ok e ↔ q.failure = none ∧ q.expanderAt? place = some e := by
  cases outcome with
  | error found =>
    have failed : q.failure = some found := agrees
    simp [failed]
  | ok built => simp [agrees.1, agrees.2.expanderAt?]

end Agrees

/-- What resolving a tree has in common with a run of its schedule. -/
structure Follows (registry : Registry) (log : LogId) (node : Node)
    (outcome : Except Failure Expander) (steps : List Step) (run : Progress) : Prop where
  error_iff : ∀ failure, outcome = .error failure ↔ run.failure = some failure
  ok_iff : ∀ e, outcome = .ok e ↔ run.failure = none ∧ run.expanderAt? [] = some e
  succeeds_iff : (∃ e, outcome = .ok e) ↔ run.failure = none
  /-- Tasks are taken from the front. -/
  taken : run.taken <+: schedule [] node
  all : run.failure = none → run.taken = schedule [] node
  /-- The last task taken is the first that fails. -/
  stops : ∀ failure, run.failure = some failure → ∃ before task, run.taken = before ++ [task] ∧
    (Progress.start.run registry log before).failure = none ∧
    task.failure? registry log (Progress.start.run registry log before) = some failure
  /-- The constructors that the resolution calls are those of the tasks taken. -/
  reported : steps.filterMap Step.construction? =
    run.constructions.map fun c => (c.arguments, c.log)
  sites : run.constructions.map Construction.site = run.taken.filterMap Task.site?
  children_first : (schedule [] node).filterMap Task.site? = postorder [] node
  once : (run.constructions.map Construction.place).Nodup
  called : ∀ c ∈ run.constructions, c.Called registry log
  supplied : ∀ c ∈ run.constructions, c.Supplied run.constructions

theorem constructions_nodup {run : Progress} {node : Node} (taken : run.taken <+: schedule [] node)
    (sites : run.constructions.map Construction.site = run.taken.filterMap Task.site?) :
    (run.constructions.map Construction.place).Nodup := by
  have places : run.constructions.map Construction.place =
      (run.taken.filterMap Task.site?).map Prod.fst := by
    rw [← sites, List.map_map]
    rfl
  obtain ⟨rest, whole⟩ := taken
  have front : (run.taken.filterMap Task.site?).map Prod.fst <+:
      (postorder [] node).map Prod.fst := by
    rw [← sites_schedule node [], ← whole, List.filterMap_append, List.map_append]
    exact List.prefix_append _ _
  rw [places]
  exact (postorder_nodup node []).sublist front.sublist

/-- Resolving a tree does what running its schedule does, up to the first task that fails. -/
theorem resolve_follows_schedule (registry : Registry) (log : LogId) (node : Node) :
    Follows registry log node (registry.resolve node log).1 (registry.resolve node log).2
      (Progress.start.run registry log (schedule [] node)) := by
  obtain ⟨new, adds, agrees⟩ := Progress.run_schedule registry log node 0 [] .start rfl
  obtain ⟨taken, constructions, took, built, front, all, sites⟩ :=
    Progress.run_takes registry log (p := .start) rfl (schedule [] node)
  have called := Progress.run_called registry log (p := .start) (schedule [] node)
    fun c member => absurd member List.not_mem_nil
  have stops (failure : Failure) :=
    @Progress.run_stops registry log .start failure rfl (schedule [] node)
  generalize Progress.start.run registry log (schedule [] node) = run at *
  obtain rfl : run.taken = taken := took
  obtain rfl : run.constructions = constructions := built
  obtain rfl : run.constructions = new := adds.constructions
  exact {
    error_iff := agrees.error_iff
    ok_iff := agrees.ok_iff
    succeeds_iff := agrees.succeeds_iff
    taken := front
    all := all
    stops := stops
    reported := adds.reported.symm
    sites := sites
    children_first := sites_schedule node []
    once := constructions_nodup front sites
    called := called
    supplied := adds.supplied }

end MatchTree
