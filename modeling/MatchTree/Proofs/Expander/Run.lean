import MatchTree.Proofs.Expander.Visit
import MatchTree.Proofs.Trace.Journal

/-!
Running an expander shows what its visit says, whatever it remembers.

The one thing that could tell runs apart is an error that stays from before, and only
expanders that report no outcome could leave one. Nothing ever gives these an error, which is
the invariant that runs keep.
-/

set_option autoImplicit false
namespace MatchTree
namespace Expander

mutual

/-- The same expander, with all inside it, recording in another log. -/
def inLog (log : LogId) : Expander → Expander
  | .test _ t => .test log t
  | .oneOf _ children => .oneOf log (inLogAll log children)
  | .each _ pattern strict => .each log (inLogArgument log pattern) strict
  | .structural _ pattern => .structural log (inLogArgument log pattern)
  | .record _ literals nested => .record log literals nested
  | .silent _ => .silent log
  | .impostor _ => .impostor log

def inLogAll (log : LogId) : List Expander → List Expander
  | [] => []
  | child :: rest => child.inLog log :: inLogAll log rest

def inLogArgument (log : LogId) : Argument Expander → Argument Expander
  | .literal v => .literal v
  | .nested child => .nested (child.inLog log)

end

@[simp] theorem name_inLog (log : LogId) (e : Expander) : (e.inLog log).name = e.name := by
  cases e <;> rfl

@[simp] theorem log_inLog (log : LogId) (e : Expander) : (e.inLog log).log = log := by
  cases e <;> rfl

mutual

/-- What reports no outcome remembers no error, here and in every expander inside. -/
def Settled : Expander → Memory → Prop
  | .test _ _, _ | .record _ _ _, _ => True
  | .oneOf _ children, memory => SettledAll children memory.children
  | .each _ pattern _, memory => SettledArgument pattern memory.children
  | .structural _ pattern, memory => SettledArgument pattern memory.children
  | .silent _, memory | .impostor _, memory => memory.error = none

def SettledAll : List Expander → List Memory → Prop
  | [], _ => True
  | child :: rest, memories =>
    child.Settled (Memory.first memories) ∧ SettledAll rest (memories.drop 1)

def SettledArgument : Argument Expander → List Memory → Prop
  | .literal _, _ => True
  | .nested child, memories => child.Settled (Memory.first memories)

end

mutual

theorem settled_fresh : ∀ e : Expander, e.Settled .fresh
  | .test _ _ | .record _ _ _ => trivial
  | .oneOf _ children => settledAll_nil children
  | .each _ pattern _ | .structural _ pattern => settledArgument_nil pattern
  | .silent _ | .impostor _ => rfl

theorem settledAll_nil : ∀ children : List Expander, SettledAll children []
  | [] => trivial
  | child :: rest => ⟨child.settled_fresh, settledAll_nil rest⟩

theorem settledArgument_nil : ∀ pattern : Argument Expander, SettledArgument pattern []
  | .literal _ => trivial
  | .nested child => child.settled_fresh

end

end Expander

/-- A run came out as a visit says. -/
structure Pass.Shows (log : LogId) (journal : Journal) (visit : Visit) (pass : Pass) : Prop where
  accepted : pass.accepted = visit.accepted
  error : pass.error = visit.error
  journal : pass.journal = journal.recordAll log visit.entries

/-- A check came out as a survey says. -/
structure Finding.Shows (log : LogId) (journal : Journal) (survey : Survey) (finding : Finding) :
    Prop where
  outcome : finding.outcome = survey.outcome
  journal : finding.journal = journal.recordAll log (Visit.entriesOfAll survey.inner)

namespace Expander
variable {log : LogId} {journal : Journal}

/-- A check without other expanders. -/
theorem verdict_shows (outcome : Except Mismatch Unit) (memory : Memory) :
    (verdict outcome memory journal).Shows log journal ⟨[], outcome.mapError Mismatch.message⟩ :=
  ⟨rfl, rfl⟩

theorem recordAll_entries (visit : Visit) :
    journal.recordAll log visit.entries =
      ((journal.record log ⟨.entrance, visit.name, visit.value⟩).recordAll log
        (Visit.entriesOfAll visit.inner)).recordAll log visit.closing := by
  rw [Visit.entries_eq, Journal.recordAll_cons, Journal.recordAll_append]

/-- Between the entrance and the outcome stands what the check recorded. -/
theorem conclude_shows {name : String} {v : Value} {survey : Survey} {finding : Finding}
    (matched : Nat) (shows : finding.Shows log (enter name log v journal) survey) :
    (conclude name log v matched finding).Shows log journal
      ⟨name, v, survey.inner, .reported survey.outcome⟩ := by
  obtain ⟨outcome, memories, recorded⟩ := finding
  obtain ⟨rfl, rfl⟩ := shows
  obtain ⟨inner, outcome⟩ := survey
  cases outcome with
  | ok u => exact ⟨rfl, rfl, (recordAll_entries ⟨name, v, inner, .reported (.ok u)⟩).symm⟩
  | error error =>
    exact ⟨rfl, rfl, (recordAll_entries ⟨name, v, inner, .reported (.error error)⟩).symm⟩

/-- An expander and its visit give the same reason for a refusal. -/
theorem errorOr_eq {child : Expander} {v : Value} {pass : Pass} (otherwise : String → String)
    (shows : pass.Shows log journal (child.visit v)) :
    errorOr (child.inLog log) pass.memory otherwise = reasonOr (child.visit v) otherwise := by
  have error : pass.memory.error = (child.visit v).error := shows.error
  rw [errorOr, reasonOr, error, name_inLog, name_visit]

/-- Items are checked alike one by one, so they are all together; `kept` holds of the memories
from one item to the next. -/
theorem runItems_shows {check : List Memory → Value → Journal → Finding} {survey : Value → Survey}
    {kept : List Memory → Prop}
    (each : ∀ memories item journal, kept memories →
      (check memories item journal).Shows log journal (survey item) ∧
        kept (check memories item journal).memories)
    (items : List Value) (index : Nat) (memories : List Memory) (journal : Journal)
    (start : kept memories) :
    (runItems check index items memories journal).2.Shows log journal
        (visitItems survey index items) ∧
      kept (runItems check index items memories journal).2.memories := by
  induction items generalizing index memories journal with
  | nil => exact ⟨⟨rfl, rfl⟩, start⟩
  | cons item rest ih =>
    obtain ⟨⟨outcome, recorded⟩, still⟩ := each memories item journal start
    cases came : (survey item).outcome with
    | ok u =>
      -- the rest starts from the memories and the journal that this item left
      obtain ⟨⟨outcome', recorded'⟩, still'⟩ := ih (index + 1)
        (check memories item journal).memories (check memories item journal).journal still
      simp only [runItems, visitItems, outcome, came]
      refine ⟨⟨outcome', ?_⟩, still'⟩
      rw [recorded', recorded, Visit.entriesOfAll_append, Journal.recordAll_append]
    | error error =>
      simp only [runItems, visitItems, outcome, came]
      exact ⟨⟨rfl, recorded⟩, still⟩

mutual

/-- A run shows the visit of its expander, and keeps the invariant for the next run. -/
theorem run_shows : ∀ (e : Expander) (memory : Memory) (v : Value) (journal : Journal),
    e.Settled memory →
      ((e.inLog log).run memory v journal).Shows log journal (e.visit v) ∧
        e.Settled ((e.inLog log).run memory v journal).memory
  | .test _ t, memory, v, journal, _ =>
    ⟨conclude_shows 0 (verdict_shows (t.check v) memory), trivial⟩
  | .record _ _ _, memory, v, journal, _ =>
    ⟨conclude_shows 0 (verdict_shows (.ok ()) memory), trivial⟩
  | .silent _, memory, v, journal, settled => ⟨⟨rfl, settled, rfl⟩, settled⟩
  | .impostor _, memory, v, journal, settled => ⟨⟨rfl, settled, rfl⟩, settled⟩
  | .oneOf _ children, memory, v, journal, settled => by
    obtain ⟨shows, still⟩ :=
      runFirst_shows children memory.children v [] (enter "oneOf" log v journal) settled
    exact ⟨conclude_shows 0 shows, still⟩
  | .structural _ pattern, memory, v, journal, settled => by
    obtain ⟨shows, still⟩ :=
      runPattern_shows pattern false memory.children v (enter "match" log v journal) settled
    exact ⟨conclude_shows 0 shows, still⟩
  | .each _ pattern strict, memory, v, journal, settled => by
    cases v with
    | array items =>
      -- one memory serves all items, so the invariant has to hold from each to the next
      obtain ⟨shows, still⟩ := runItems_shows
        (fun memories item journal => runPattern_shows pattern strict memories item journal)
        items 0 memory.children (enter "repeat" log (.array items) journal) settled
      exact ⟨conclude_shows _ shows, still⟩
    | _ => exact ⟨conclude_shows 0 (verdict_shows (.error (.notArray _)) memory), settled⟩

theorem runFirst_shows : ∀ (children : List Expander) (memories : List Memory) (v : Value)
    (errors : List String) (journal : Journal), SettledAll children memories →
      (runFirst (inLogAll log children) memories v errors journal).Shows log journal
          (visitFirst children v errors) ∧
        SettledAll children (runFirst (inLogAll log children) memories v errors journal).memories
  | [], memories, v, errors, journal, _ => ⟨⟨rfl, rfl⟩, trivial⟩
  | child :: rest, memories, v, errors, journal, ⟨first, others⟩ => by
    obtain ⟨shows, still⟩ := run_shows child (Memory.first memories) v journal first
    let pass := (child.inLog log).run (Memory.first memories) v journal
    cases answer : (child.visit v).accepted with
    | true =>
      -- the other children are not run and keep what they remember
      simp only [inLogAll, runFirst, visitFirst, shows.accepted, answer, if_true]
      refine ⟨⟨rfl, ?_⟩, still, others⟩
      simp [shows.journal, Visit.entriesOfAll]
    | false =>
      obtain ⟨later, still'⟩ := runFirst_shows rest (memories.drop 1) v
        (errors ++ [reasonOr (child.visit v) fun name => s!"#{name} did not match"])
        pass.journal others
      simp only [inLogAll, runFirst, visitFirst, shows.accepted, answer, errorOr_eq _ shows,
        Bool.false_eq_true, if_false]
      refine ⟨⟨later.outcome, ?_⟩, still, still'⟩
      rw [Visit.entriesOfAll, Journal.recordAll_append, ← shows.journal]
      exact later.journal

theorem runPattern_shows : ∀ (pattern : Argument Expander) (strict : Bool)
    (memories : List Memory) (v : Value) (journal : Journal), SettledArgument pattern memories →
      (runPattern (inLogArgument log pattern) strict memories v journal).Shows log journal
          (visitPattern pattern strict v) ∧
        SettledArgument pattern
          (runPattern (inLogArgument log pattern) strict memories v journal).memories
  | .literal _, _, _, _, _, _ => ⟨⟨rfl, rfl⟩, trivial⟩
  | .nested child, strict, memories, v, journal, settled => by
    obtain ⟨shows, still⟩ := run_shows child (Memory.first memories) v journal settled
    refine ⟨⟨?_, ?_⟩, still⟩
    · simp only [inLogArgument, runPattern, visitPattern, shows.accepted, errorOr_eq _ shows]
    · simp [inLogArgument, runPattern, visitPattern, shows.journal, Visit.entriesOfAll]

end

end Expander
end MatchTree
