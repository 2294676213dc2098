import MatchTree.Proofs.Expander.Block
import MatchTree.Proofs.Expander.Correspondence

/-!
Expanders that answer alike.

An expander learns of those inside it no more than their answers, and a text made from a name
where there is no error to be read. So one that answers alike can stand for another anywhere, and
an expander can stand for the `match` around it. How many items matched is read off the answers
too.
-/

set_option autoImplicit false
namespace MatchTree
namespace Expander

/-- Both answer every value alike, and if they leave an outcome unreported, they have one name. -/
def AnswersAs (e e' : Expander) : Prop :=
  ∀ v, (e'.visit v).ending = (e.visit v).ending ∧
    (e'.name = e.name ∨ ∃ outcome, (e.visit v).ending = .reported outcome)

/-! ## Parts -/

theorem reasonOr_of_failed {visit : Visit} {error : String}
    (failed : visit.ending = .reported (.error error)) (otherwise : String → String) :
    reasonOr visit otherwise = error := by
  rw [reasonOr, Visit.error, failed]
  rfl

section
variable {e e' : Expander} (alike : e.AnswersAs e') (v : Value)
include alike

theorem AnswersAs.accepted : (e'.visit v).accepted = (e.visit v).accepted :=
  congrArg Ending.accepted (alike v).1

theorem AnswersAs.error : (e'.visit v).error = (e.visit v).error :=
  congrArg Ending.error (alike v).1

theorem AnswersAs.reasonOr (refused : (e.visit v).accepted = false)
    (otherwise : String → String) :
    Expander.reasonOr (e'.visit v) otherwise = Expander.reasonOr (e.visit v) otherwise := by
  obtain ⟨same, named | ⟨outcome, reported⟩⟩ := alike v
  -- the text is made from the name where there is no error; otherwise the name is not looked at
  · rw [Expander.reasonOr, Expander.reasonOr, alike.error, name_visit, name_visit, named]
  · cases outcome with
    | ok u =>
      rw [Visit.accepted, reported] at refused
      contradiction
    | error reason =>
      rw [reasonOr_of_failed reported, reasonOr_of_failed (same.trans reported)]

end

/-- What a pattern makes of an expander that reports is its report. -/
theorem outcome_visitPattern_nested {child : Expander} {v : Value} {outcome : Except String Unit}
    (reported : (child.visit v).ending = .reported outcome) (strict : Bool) :
    (visitPattern (.nested child) strict v).outcome = outcome := by
  rw [visitPattern, Visit.accepted, reported]
  cases outcome with
  | ok u => rfl
  | error error => exact congrArg Except.error (reasonOr_of_failed reported _)

theorem outcome_visitPattern_related {pattern pattern' : Argument Expander}
    (related : Argument.Related AnswersAs pattern pattern') (strict : Bool) (v : Value) :
    (visitPattern pattern' strict v).outcome = (visitPattern pattern strict v).outcome := by
  cases related with
  | literal p => rfl
  | @nested e e' alike =>
    rw [visitPattern, visitPattern, alike.accepted]
    cases refused : (e.visit v).accepted with
    | true => rfl
    | false => simp only [alike.reasonOr v refused, Bool.false_eq_true, if_false]

theorem outcome_visitItems_congr {check check' : Value → Survey}
    (same : ∀ v, (check' v).outcome = (check v).outcome) (index : Nat) (items : List Value) :
    (visitItems check' index items).outcome = (visitItems check index items).outcome := by
  induction items generalizing index with
  | nil => rfl
  | cons item rest ih =>
    rw [visitItems, visitItems, same item]
    cases (check item).outcome with
    | ok u => exact ih (index + 1)
    | error error => rfl

theorem outcome_visitFirst_related {children children' : List Expander}
    (related : List.Forall₂ AnswersAs children children') (v : Value) (errors : List String) :
    (visitFirst children' v errors).outcome = (visitFirst children v errors).outcome := by
  induction related generalizing errors with
  | nil => rfl
  | @cons child child' rest rest' alike _ ih =>
    rw [visitFirst, visitFirst, alike.accepted]
    cases refused : (child.visit v).accepted with
    | true => rfl
    -- the next child starts from the same errors, since this one gave the same reason
    | false => simp only [alike.reasonOr v refused, ih, Bool.false_eq_true, if_false]

/-! ## What is built -/

/-- Whatever their children answer, these report it. -/
theorem AnswersAs.of_outcome {e e' : Expander}
    (same : ∀ v, ∃ outcome, (e.visit v).ending = .reported outcome ∧
      (e'.visit v).ending = .reported outcome) : e.AnswersAs e' := by
  intro v
  obtain ⟨outcome, reported, reported'⟩ := same v
  exact ⟨reported'.trans reported.symm, .inr ⟨outcome, reported⟩⟩

/-- Two `repeat`s answer alike if their patterns come out alike. -/
theorem answersAs_each {log log' : LogId} {pattern pattern' : Argument Expander}
    {strict strict' : Bool}
    (same : ∀ v, (visitPattern pattern' strict' v).outcome =
      (visitPattern pattern strict v).outcome) :
    (each log pattern strict).AnswersAs (each log' pattern' strict') := by
  refine .of_outcome fun v => ?_
  cases v with
  | array items =>
    exact ⟨_, rfl, congrArg Ending.reported (outcome_visitItems_congr same 0 items)⟩
  | _ => exact ⟨_, rfl, rfl⟩

theorem answersAs_congruence (log log' : LogId) : Congruence log log' AnswersAs where
  test _ := .of_outcome fun _ => ⟨_, rfl, rfl⟩
  oneOf related := .of_outcome fun v =>
    ⟨_, rfl, congrArg Ending.reported (outcome_visitFirst_related related v [])⟩
  each strict related := answersAs_each (outcome_visitPattern_related related strict)
  structural related := .of_outcome fun v =>
    ⟨_, rfl, congrArg Ending.reported (outcome_visitPattern_related related false v)⟩
  record _ _ := .of_outcome fun _ => ⟨_, rfl, rfl⟩
  -- these leave the outcome open, but they keep their names
  silent _ := ⟨rfl, .inl rfl⟩
  impostor _ := ⟨rfl, .inl rfl⟩

/-- A `match` around an expander that reports answers as that does. -/
theorem AnswersAs.structural {e e' : Expander} (alike : e.AnswersAs e') (reporting : e.Reporting)
    (log : LogId) : (Expander.structural log (.nested e)).AnswersAs e' := by
  refine .of_outcome fun v => ?_
  obtain ⟨outcome, reported⟩ := reported_of_reporting reporting v
  refine ⟨outcome, ?_, (alike v).1.trans reported⟩
  exact congrArg Ending.reported (outcome_visitPattern_nested reported false)

/-! ## Counts -/

/-- How many items come before the first that a check refuses. -/
def acceptedItems (check : Value → Survey) : Value → Nat
  | .array items => (items.takeWhile fun item => (check item).outcome.isOk).length
  | _ => 0

/-- A run counts the items that come before the first refused one; the condition is the one that
`runItems_shows` has. -/
theorem matched_runItems {log : LogId} {check : List Memory → Value → Journal → Finding}
    {survey : Value → Survey} {kept : List Memory → Prop}
    (each : ∀ memories item journal, kept memories →
      (check memories item journal).Shows log journal (survey item) ∧
        kept (check memories item journal).memories)
    (items : List Value) (index : Nat) (memories : List Memory) (journal : Journal)
    (start : kept memories) :
    (runItems check index items memories journal).1 =
      index + acceptedItems survey (.array items) := by
  induction items generalizing index memories journal with
  | nil => rfl
  | cons item rest ih =>
    obtain ⟨⟨outcome, _⟩, still⟩ := each memories item journal start
    rw [runItems, acceptedItems, List.takeWhile_cons, outcome]
    cases came : (survey item).outcome with
    | error error => rfl
    | ok u =>
      simp only [Except.isOk, Except.toBool, if_true, List.length_cons]
      -- the rest goes on counting from here, as this item does from `index`
      rw [ih (index + 1) _ _ still, acceptedItems, Nat.add_assoc, Nat.add_comm 1]
      rfl

theorem matched_run_of_settled {log : LogId} {pattern : Argument Expander} {strict : Bool}
    (same : (each log pattern strict).inLog log = each log pattern strict) {memory : Memory}
    (settled : (each log pattern strict).Settled memory) (v : Value) (journal : Journal) :
    ((each log pattern strict).run memory v journal).memory.matched =
      acceptedItems (visitPattern pattern strict) v := by
  cases v with
  | array items =>
    have count := matched_runItems (@runPattern_shows log pattern strict) items 0
      memory.children (enter "repeat" log (.array items) journal) settled
    rw [(each.inj same).2.1, Nat.zero_add] at count
    exact count
  | _ => rfl

theorem matched_run_each {log : LogId} {pattern : Argument Expander} {strict : Bool}
    (records : (each log pattern strict).Records log) (memory : Memory) (v : Value)
    (journal : Journal) :
    ((each log pattern strict).run memory v journal).memory.matched =
      acceptedItems (visitPattern pattern strict) v :=
  matched_run_of_settled records.inLog (records.reporting.settled memory) v journal

theorem acceptedItems_congr {check check' : Value → Survey}
    (same : ∀ v, (check' v).outcome = (check v).outcome) (v : Value) :
    acceptedItems check' v = acceptedItems check v := by
  cases v with
  | array items => simp only [acceptedItems, same]
  | _ => rfl

end Expander
end MatchTree
