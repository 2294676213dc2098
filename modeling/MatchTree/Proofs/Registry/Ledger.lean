import MatchTree.Proofs.Expander.Recall
import MatchTree.Proofs.Registry.Change
import MatchTree.Registry.Session

/-!
A session told without memories and journals.

A ledger keeps of each expander only what it was resolved from. To run it, the ledger resolves
the tree again, against the registry of back then and for an empty log, and runs the result
once. A session does the same as its ledger, whatever calls it gets and in whatever order.
-/

set_option autoImplicit false
namespace MatchTree

/-- What the expander of a tree answers on its first run, for a log of its own. -/
def Registry.answer (registry : Registry) (node : Node) (v : Value) : Option Answer :=
  let (log, journal) := Journal.empty.addLog
  match (registry.resolve node log).1 with
  | .ok e =>
    let pass := e.run .fresh v journal
    some ⟨pass.accepted, pass.error, pass.journal.contents log⟩
  | .error _ => none

/-- What an expander was resolved from, the name of its log, and its last answer. -/
structure Origin where
  registry : Registry
  node : Node
  trace : String
  last : Option Answer

/-- `uses` are the answers so far, each with the name of the log. -/
structure Ledger where
  registry : Registry
  saved : List Registry
  origins : Table Origin
  uses : List (String × Answer)

namespace Ledger

def start (registry : Registry) : Ledger := ⟨registry, [], [], []⟩

def restore (ledger : Ledger) : Ledger :=
  match ledger.saved with
  | registry :: rest => { ledger with registry := registry, saved := rest }
  | [] => ledger

/-- A tree that resolves is noted under its name; one that does not changes nothing. -/
def resolve (ledger : Ledger) (id : String) (node : Node) (trace : String) : Ledger :=
  match (ledger.registry.resolve node 0).1 with
  | .ok _ =>
    { ledger with origins := ledger.origins.insert id ⟨ledger.registry, node, trace, none⟩ }
  | .error _ => ledger

def run (ledger : Ledger) (id : String) (v : Value) : Ledger :=
  match ledger.origins.get? id with
  | some origin =>
    match origin.registry.answer origin.node v with
    | some answer =>
      { ledger with
        origins := ledger.origins.insert id { origin with last := some answer }
        uses := ledger.uses ++ [(origin.trace, answer)] }
    | none => ledger
  | none => ledger

def step (ledger : Ledger) : Session.Call → Ledger
  | .change change => { ledger with registry := ledger.registry.after change }
  | .save => { ledger with saved := ledger.registry :: ledger.saved }
  | .restore => ledger.restore
  | .resolve id node trace => ledger.resolve id node trace
  | .run id v => ledger.run id v

def perform (ledger : Ledger) (calls : List Session.Call) : Ledger := calls.foldl step ledger

/-- What the answers so far put into a log. -/
def contents (ledger : Ledger) (trace : String) : List Entry :=
  (ledger.uses.filter fun use => use.1 == trace).flatMap fun use => use.2.entries

/-- An answer adds its entries to its log and nothing to others. -/
theorem contents_append (ledger : Ledger) (origins : Table Origin) (name : String)
    (answer : Answer) (trace : String) :
    contents { ledger with origins := origins, uses := ledger.uses ++ [(name, answer)] } trace =
      ledger.contents trace ++ if trace = name then answer.entries else [] := by
  simp only [contents, List.filter_append, List.flatMap_append]
  by_cases same : trace = name
  · simp [same]
  · simp [same, Ne.symm same]

end Ledger

namespace Session

theorem run_of_get? {session : Session} {id : String} {kept : Instance}
    (there : session.instances.get? id = some kept) (v : Value) :
    session.run id v = some (kept.expander.run kept.memory v session.journal,
      { session with
        journal := (kept.expander.run kept.memory v session.journal).journal
        instances := session.instances.insert id
          ⟨kept.expander, (kept.expander.run kept.memory v session.journal).memory⟩ }) := by
  rw [run, there]
  rfl

/-- The entries under the name of a log; none if it was never opened. -/
def contents (session : Session) (trace : String) : List Entry :=
  match session.traces.get? trace with
  | some log => session.journal.contents log
  | none => []

/-- A call carries no implementation but of one of some kinds. -/
def Call.Within (kinds : List Kind) : Call → Prop
  | .change made => made.Within kinds
  | _ => True

end Session

variable {kinds : List Kind}

/-- The log that an expander was resolved for does not matter to its answer. -/
theorem Registry.answer_of_resolve {registry : Registry} (familiar : registry.Familiar)
    {node : Node} {log : LogId} {e : Expander} (resolved : (registry.resolve node log).1 = .ok e)
    (v : Value) : registry.answer node v = some (e.visit v).answer := by
  have again : (registry.resolve node 0).1 = .ok (e.inLog 0) := by
    rw [resolve_inLog familiar node log 0, resolved]
    rfl
  rw [Registry.answer]
  simp only [Journal.addLog_empty_fst, again]
  exact congrArg some (e.answer_eq v)

/-- An expander is what its tree resolves to in its log, and remembers its last error. -/
structure Stands (kinds : List Kind) (traces : Table LogId) (kept : Instance) (origin : Origin) :
    Prop where
  binds : origin.registry.Binds kinds
  attached : traces.get? origin.trace = some kept.expander.log
  resolved : (origin.registry.resolve origin.node kept.expander.log).1 = .ok kept.expander
  settled : kept.expander.Settled kept.memory
  error : kept.memory.error = origin.last.bind Answer.error

namespace Stands
variable {traces : Table LogId} {kept : Instance} {origin : Origin}

/-- A run answers what the ledger says, and the expander still stands after it. -/
theorem run (stands : Stands kinds traces kept origin) (v : Value) (journal : Journal) :
    ∃ answer, origin.registry.answer origin.node v = some answer ∧
      (kept.expander.run kept.memory v journal).accepted = answer.accepted ∧
      (kept.expander.run kept.memory v journal).error = answer.error ∧
      (kept.expander.run kept.memory v journal).journal =
        journal.recordAll kept.expander.log answer.entries ∧
      Stands kinds traces ⟨kept.expander, (kept.expander.run kept.memory v journal).memory⟩
        { origin with last := some answer } := by
  obtain ⟨shows, settled⟩ :=
    @Expander.run_shows kept.expander.log kept.expander kept.memory v journal stands.settled
  rw [Registry.inLog_of_resolve stands.binds.familiar stands.resolved] at shows settled
  exact ⟨_, Registry.answer_of_resolve stands.binds.familiar stands.resolved v, shows.accepted, shows.error,
    shows.journal, stands.binds, stands.attached, stands.resolved, settled, shows.error⟩

/-- To open a log under another name leaves an expander attached to its own. -/
theorem opening (stands : Stands kinds traces kept origin) {trace : String}
    (unopened : traces.get? trace = none) (log : LogId) :
    Stands kinds (traces.insert trace log) kept origin := by
  have ne : origin.trace ≠ trace := by
    intro same
    rw [← same, stands.attached] at unopened
    contradiction
  exact { stands with attached := (Table.get?_insert_of_ne log traces ne).trans stands.attached }

end Stands

theorem imp_of_rel {α β : Type} {r r' : α → β → Prop} {a : Option α} {b : Option β}
    (rel : Option.Rel r a b) (step : ∀ {a b}, r a b → r' a b) : Option.Rel r' a b := by
  cases rel with
  | some related => exact .some (step related)
  | none => exact .none

/-- A session stands as its ledger says. -/
structure Ledger.Agrees (kinds : List Kind) (session : Session) (ledger : Ledger) : Prop where
  registry : session.registry = ledger.registry
  saved : session.saved = ledger.saved
  within : session.registry.Within kinds
  savedWithin : ∀ registry ∈ session.saved, registry.Within kinds
  opened : ∀ trace log, session.traces.get? trace = some log → log < session.journal.logs.size
  apart : ∀ trace other log, session.traces.get? trace = some log →
    session.traces.get? other = some log → trace = other
  instances : ∀ id, Option.Rel (Stands kinds session.traces) (session.instances.get? id)
    (ledger.origins.get? id)
  contents : ∀ trace, session.contents trace = ledger.contents trace

namespace Ledger.Agrees
variable {session : Session} {ledger : Ledger}

theorem start {registry : Registry} (within : registry.Within kinds) :
    Agrees kinds (Session.start registry) (Ledger.start registry) where
  registry := rfl
  saved := rfl
  within := within
  savedWithin := nofun
  opened := nofun
  apart := nofun
  instances _ := .none
  contents _ := rfl

/-- Registries come and go without touching expanders and logs. -/
theorem changing (agrees : Agrees kinds session ledger) {registry : Registry}
    (within : registry.Within kinds) {saved : List Registry}
    (savedWithin : ∀ registry ∈ saved, registry.Within kinds) :
    Agrees kinds { session with registry := registry, saved := saved }
      { ledger with registry := registry, saved := saved } :=
  ⟨rfl, rfl, within, savedWithin, agrees.opened, agrees.apart, agrees.instances, agrees.contents⟩

/-- The log of a name is opened once, and until then it is as good as empty. -/
theorem opening (agrees : Agrees kinds session ledger) (trace : String) :
    Agrees kinds (session.trace trace).2 ledger ∧
      (session.trace trace).2.traces.get? trace = some (session.trace trace).1 := by
  unfold Session.trace
  cases known : session.traces.get? trace with
  | some log => exact ⟨agrees, known⟩
  | none =>
    refine ⟨⟨agrees.registry, agrees.saved, agrees.within, agrees.savedWithin, ?_, ?_, ?_, ?_⟩,
      Table.get?_insert_self trace _ _⟩
    · intro other log found
      simp only [Table.get?_insert] at found
      simp only [Journal.addLog, Array.size_push]
      split at found
      · obtain rfl := Option.some.inj found
        exact Nat.lt_succ_self _
      · exact Nat.lt_succ_of_lt (agrees.opened other log found)
    · intro first second log here there
      simp only [Table.get?_insert] at here there
      -- the new log lies behind all the others
      split at here <;> split at there
      · rename_i same same'
        rw [same, same']
      · obtain rfl := Option.some.inj here
        exact absurd (agrees.opened second _ there) (Nat.lt_irrefl _)
      · obtain rfl := Option.some.inj there
        exact absurd (agrees.opened first _ here) (Nat.lt_irrefl _)
      · exact agrees.apart first second log here there
    · exact fun id => imp_of_rel (agrees.instances id) fun stands => stands.opening known _
    · intro other
      rw [← agrees.contents other]
      simp only [Session.contents, Table.get?_insert]
      by_cases same : other = trace
      · subst same
        rw [if_pos rfl, known]
        simp [Journal.contents, Journal.log, Journal.addLog]
      · rw [if_neg same]
        cases session.traces.get? other with
        | none => rfl
        | some log => exact Journal.contents_addLog _ log

theorem resolving (agrees : Agrees kinds session ledger) (id : String) (node : Node)
    (trace : String) :
    Agrees kinds (session.resolve id node trace).2.2 (ledger.resolve id node trace) := by
  obtain ⟨opened, attached⟩ := agrees.opening trace
  unfold Session.resolve Ledger.resolve
  generalize session.trace trace = next at opened attached
  obtain ⟨log, next⟩ := next
  have same : next.registry = ledger.registry := opened.registry
  have within : ledger.registry.Within kinds := same ▸ opened.within
  have binds := within.binds
  simp only [same, Registry.resolve_inLog binds.familiar node log 0]
  cases resolved : ledger.registry.resolve node log with
  | mk outcome steps =>
    cases outcome with
    | error failure => exact opened
    | ok e =>
      -- the session resolves for the named log and the ledger for an empty one
      have logged : e.log = log := by
        rw [← Registry.inLog_of_resolve binds.familiar (congrArg Prod.fst resolved), Expander.log_inLog]
      have stands : Stands kinds next.traces ⟨e, .fresh⟩ ⟨ledger.registry, node, trace, none⟩ := by
        refine ⟨binds, ?_, ?_, e.settled_fresh, rfl⟩
        · rw [attached, logged]
        · rw [logged, resolved]
      refine ⟨rfl, opened.saved, within, opened.savedWithin, opened.opened, opened.apart,
        fun other => ?_, opened.contents⟩
      simp only [Except.map, Table.get?_insert]
      split
      · exact .some stands
      · exact opened.instances other

theorem none_iff (agrees : Agrees kinds session ledger) (id : String) :
    session.instances.get? id = none ↔ ledger.origins.get? id = none := by
  have rel := agrees.instances id
  generalize session.instances.get? id = kept at rel ⊢
  generalize ledger.origins.get? id = origin at rel ⊢
  cases rel <;> simp

theorem stands (agrees : Agrees kinds session ledger) {id : String} {origin : Origin}
    (noted : ledger.origins.get? id = some origin) :
    ∃ kept, session.instances.get? id = some kept ∧
      Stands kinds session.traces kept origin := by
  have rel := agrees.instances id
  rw [noted] at rel
  generalize session.instances.get? id = found at rel ⊢
  cases rel with
  | some stands => exact ⟨_, rfl, stands⟩

theorem running (agrees : Agrees kinds session ledger) (id : String) (v : Value) :
    Agrees kinds (session.step (.run id v)) (ledger.run id v) := by
  unfold Session.step Ledger.run
  cases noted : ledger.origins.get? id with
  | none =>
    have missing : session.run id v = none := by
      rw [Session.run, (agrees.none_iff id).mpr noted]
      rfl
    simpa only [missing] using agrees
  | some origin =>
    obtain ⟨kept, there, stands⟩ := agrees.stands noted
    obtain ⟨answer, answers, _, _, journal, still⟩ := stands.run v session.journal
    simp only [Session.run_of_get? there, answers]
    refine ⟨agrees.registry, agrees.saved, agrees.within, agrees.savedWithin, ?_, agrees.apart,
      fun other => ?_, fun trace => ?_⟩
    · intro trace log found
      rw [journal, Journal.size_recordAll]
      exact agrees.opened trace log found
    · simp only [Table.get?_insert]
      split
      · exact .some still
      · exact agrees.instances other
    · rw [Ledger.contents_append, ← agrees.contents trace]
      simp only [Session.contents, journal]
      by_cases same : trace = origin.trace
      · subst same
        have opened := agrees.opened origin.trace kept.expander.log stands.attached
        simp only [stands.attached, Journal.contents_recordAll_self opened, if_true]
      · rw [if_neg same, List.append_nil]
        cases found : session.traces.get? trace with
        | none => rfl
        | some log =>
          -- another name has another log
          have ne : log ≠ kept.expander.log := by
            rintro rfl
            exact same (agrees.apart trace origin.trace _ found stands.attached)
          exact Journal.contents_recordAll_of_ne ne answer.entries

theorem step (usual : Kind.builtin ⊆ kinds) (agrees : Agrees kinds session ledger)
    {call : Session.Call} (carried : call.Within kinds) :
    Agrees kinds (session.step call) (ledger.step call) := by
  cases call with
  | change made =>
    have changed := agrees.changing (agrees.within.after usual carried) agrees.savedWithin
    simpa only [Session.step, Ledger.step, ← agrees.registry, agrees.saved] using changed
  | save =>
    have saved : ∀ registry ∈ session.registry :: session.saved, registry.Within kinds :=
      List.forall_mem_cons.mpr ⟨agrees.within, agrees.savedWithin⟩
    have changed := agrees.changing agrees.within saved
    simpa only [Session.step, Session.save, Ledger.step, agrees.registry, agrees.saved]
      using changed
  | restore =>
    simp only [Session.step, Session.restore, Ledger.step, Ledger.restore, ← agrees.saved]
    cases saved : session.saved with
    | nil => exact agrees
    | cons registry rest =>
      obtain ⟨within, others⟩ := List.forall_mem_cons.mp (saved ▸ agrees.savedWithin)
      exact agrees.changing within others
  | resolve id node trace => exact agrees.resolving id node trace
  | run id v => exact agrees.running id v

theorem perform (usual : Kind.builtin ⊆ kinds) (agrees : Agrees kinds session ledger)
    {calls : List Session.Call} (carried : ∀ call ∈ calls, call.Within kinds) :
    Agrees kinds (session.perform calls) (ledger.perform calls) := by
  induction calls generalizing session ledger with
  | nil => exact agrees
  | cons call rest ih =>
    obtain ⟨here, there⟩ := List.forall_mem_cons.mp carried
    exact ih (agrees.step usual here) there

end Ledger.Agrees

/-- All kinds: the usual ones, the one that keeps what it is given, and those that report no
outcome. -/
def Kind.all : List Kind := builtin ++ [record, silent, impostor]

namespace Session

/-- After any calls, every expander answers its next run as the ledger says, its error is that of
its last answer, and every log holds the entries of the answers for it and nothing else. -/
theorem perform_answers {registry : Registry} (within : registry.Within Kind.all)
    {calls : List Call} (carried : ∀ call ∈ calls, call.Within Kind.all) :
    let session := (start registry).perform calls
    let ledger := (Ledger.start registry).perform calls
    (∀ id, session.instances.get? id = none ↔ ledger.origins.get? id = none) ∧
      (∀ id origin, ledger.origins.get? id = some origin →
        ∃ kept, session.instances.get? id = some kept ∧
          session.traces.get? origin.trace = some kept.expander.log ∧
          kept.memory.error = origin.last.bind Answer.error ∧
          ∀ v, ∃ answer pass next, origin.registry.answer origin.node v = some answer ∧
            session.run id v = some (pass, next) ∧ pass.accepted = answer.accepted ∧
            pass.error = answer.error ∧
            next.instances.get? id = some ⟨kept.expander, pass.memory⟩ ∧
            next.contents origin.trace = session.contents origin.trace ++ answer.entries) ∧
      ∀ trace, session.contents trace = ledger.contents trace := by
  intro session ledger
  have agrees : Ledger.Agrees Kind.all session ledger :=
    (Ledger.Agrees.start within).perform (List.subset_append_left _ _) carried
  refine ⟨agrees.none_iff, fun id origin noted => ?_, agrees.contents⟩
  obtain ⟨kept, there, stands⟩ := agrees.stands noted
  refine ⟨kept, there, stands.attached, stands.error, fun v => ?_⟩
  obtain ⟨answer, answers, accepted, error, journal, _⟩ := stands.run v session.journal
  refine ⟨answer, _, _, answers, run_of_get? there v, accepted, error,
    Table.get?_insert_self id _ _, ?_⟩
  have opened := agrees.opened origin.trace kept.expander.log stands.attached
  simp only [contents, stands.attached, journal, Journal.contents_recordAll_self opened]

/-- The name stands for something else by the time the expander is run. -/
theorem perform_answers_of_rebound :
    let registry : Registry := ⟨[("isEmpty", .ofKind .isEmpty)], []⟩
    let calls : List Call := [.resolve "a" ⟨"isEmpty", []⟩ "t",
      .change (.registerKind "isEmpty" .isNotEmpty), .run "a" .null]
    registry.Within Kind.all ∧ (∀ call ∈ calls, call.Within Kind.all) ∧
      ((start registry).perform calls).contents "t" =
        [⟨.entrance, "isEmpty", .null⟩, ⟨.succeed, "isEmpty", .null⟩] := by
  intro registry calls
  have within : registry.Within Kind.all := by
    refine ⟨fun name implementation bound => ?_, nofun⟩
    have bound : (if name = "isEmpty" then some (Implementation.ofKind .isEmpty) else none) =
        some implementation := (Table.get?_cons name "isEmpty" _ []).symm.trans bound
    split at bound
    · obtain rfl := Option.some.inj bound
      exact Implementation.ofKind_builds (by decide)
    · contradiction
  have carried : ∀ call ∈ calls, call.Within Kind.all := by
    simp only [calls, List.forall_mem_cons]
    exact ⟨trivial, (by decide : Kind.isNotEmpty ∈ Kind.all), trivial, nofun⟩
  have agrees := (perform_answers within carried).2.2 "t"
  exact ⟨within, carried, agrees⟩

end Session
end MatchTree
