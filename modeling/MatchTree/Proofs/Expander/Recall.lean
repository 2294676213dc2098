import MatchTree.Proofs.Expander.Block

/-!
What expanders answer when they are run for the first time, and what they may remember later.

An expander that was run before, on whatever values and among whatever else the journal was given
meanwhile, answers as it would if it were run for the first time.
-/

set_option autoImplicit false
namespace MatchTree

/-- What a run shows to the outside. -/
structure Answer where
  accepted : Bool
  error : Option String
  entries : List Entry

/-- What runs show of a visit. -/
def Visit.answer (visit : Visit) : Answer := ⟨visit.accepted, visit.error, visit.entries⟩

theorem Test.require_ok_iff {condition : Bool} {mismatch : Mismatch} :
    Test.require condition mismatch = .ok () ↔ condition = true := by
  cases condition <;> simp [Test.require]

namespace Expander

/-- What an expander answers on its first run, with an empty log to itself. -/
def answer (e : Expander) (v : Value) : Answer :=
  let (log, journal) := Journal.empty.addLog
  let pass := (e.inLog log).run .fresh v journal
  ⟨pass.accepted, pass.error, pass.journal.contents log⟩

/-- What an expander may remember: nothing at first, and then what its last run left. -/
inductive Recalls (e : Expander) : Memory → Prop
  | fresh : Recalls e .fresh
  | run {memory : Memory} (before : Recalls e memory) (v : Value) (journal : Journal) :
    Recalls e (e.run memory v journal).memory

theorem answer_eq (e : Expander) (v : Value) : e.answer v = (e.visit v).answer := by
  have shows := (@run_shows 0 e .fresh v Journal.empty.addLog.2 e.settled_fresh).1
  have entries : ((e.inLog 0).run .fresh v Journal.empty.addLog.2).journal.contents 0 =
      (e.visit v).entries := by
    rw [shows.journal, Journal.contents_recordAll_self (by decide)]
    rfl
  simp only [answer, Journal.addLog_empty_fst, Visit.answer, shows.accepted, shows.error, entries]

variable {e : Expander} {log : LogId} {memory : Memory}

theorem accepted_answer (v : Value) : (e.answer v).accepted = e.accepts v :=
  congrArg Answer.accepted (e.answer_eq v)

/-- Every run keeps the invariant for the next. -/
theorem Recalls.settled (same : e.inLog log = e) (recalls : e.Recalls memory) :
    e.Settled memory := by
  induction recalls with
  | fresh => exact e.settled_fresh
  | run _ v journal ih =>
    have still := (@run_shows log e _ v journal ih).2
    rwa [same] at still

theorem Recalls.shows (same : e.inLog log = e) (recalls : e.Recalls memory) (v : Value)
    (journal : Journal) : (e.run memory v journal).Shows log journal (e.visit v) :=
  shows_of_settled same (recalls.settled same) v journal

/-- A run accepts what the first run would accept. -/
theorem Recalls.accepted (same : e.inLog log = e) (recalls : e.Recalls memory) (v : Value)
    (journal : Journal) : (e.run memory v journal).accepted = (e.answer v).accepted :=
  (recalls.shows same v journal).accepted.trans (accepted_answer v).symm

/-! ## Tests -/

/-- A test accepts what its check lets pass. -/
theorem accepted_test_iff (log : LogId) (t : Test) (v : Value) :
    ((test log t).answer v).accepted = true ↔ t.check v = .ok () := by
  rw [accepted_answer, accepts, visit, Visit.accepted]
  cases t.check v with
  | ok => exact iff_of_true rfl rfl
  | error => exact iff_of_false Bool.false_ne_true (by simp)

theorem answer_test_of_error {t : Test} {v : Value} {mismatch : Mismatch} (log : LogId)
    (refused : t.check v = .error mismatch) :
    ((test log t).answer v).accepted = false ∧
      ((test log t).answer v).error = some mismatch.message := by
  rw [answer_eq, visit, refused]
  exact ⟨rfl, rfl⟩

/-- A test remembers nothing that matters: every run answers as the first, and reports an
outcome. -/
theorem run_test (log : LogId) (t : Test) (memory : Memory) (v : Value) (journal : Journal) :
    ((test log t).run memory v journal).accepted = ((test log t).answer v).accepted ∧
      ((test log t).run memory v journal).error = ((test log t).answer v).error ∧
      ∃ stage, Outcome stage ((test log t).run memory v journal) := by
  have records : (test log t).Records log := ⟨trivial, rfl⟩
  have shows := records.shows memory v journal
  obtain ⟨stage, _, leaves⟩ := records.leaves v
  rw [answer_eq]
  exact ⟨shows.accepted, shows.error, stage, (leaves memory journal).outcome⟩

end Expander
end MatchTree
