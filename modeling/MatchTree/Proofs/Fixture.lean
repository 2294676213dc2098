import MatchTree.Fixture
import MatchTree.Proofs.Registry.Ledger
import MatchTree.Proofs.Test.Substring

/-!
Fixtures, told from what each case comes to alone.

All cases of a fixture are run on one expander, and what that remembers of one case has no
bearing on the next. So the results follow the cases wherever these are put. How a fixture comes
out depends beyond that only on whether its tree resolves and on what failure it expects.
-/

set_option autoImplicit false
namespace MatchTree

namespace Registry

/-- Fixtures find the usual kinds and `record`, and one name that never builds an expander. -/
theorem lookup_observing {name : String} {implementation : Implementation}
    (bound : observing.lookup name = some implementation) :
    implementation = .notAnExpander ∨ implementation.BuildsOneOf (.record :: Kind.builtin) := by
  have within : (standard.registerKind Kind.record.title .record).1.Within
      (.record :: Kind.builtin) :=
    (Within.standard (List.subset_cons_self _ _)).registerKind _ List.mem_cons_self
  rw [show observing.lookup name = _ from lookup_bind "notAnExpander" name .notAnExpander] at bound
  split at bound
  · exact .inl (Option.some.inj bound).symm
  · exact .inr (within.binds name implementation bound)

theorem familiar_observing : observing.Familiar := by
  intro name implementation bound
  rcases lookup_observing bound with rfl | ⟨kind, _, builds⟩
  · exact .inr (.inl ⟨_, rfl⟩)
  · exact .inl ⟨kind, builds⟩

theorem records_of_observing {node : Node} {log : LogId} {e : Expander}
    (resolved : (observing.resolve node log).1 = .ok e) : e.Records log := by
  have heard : ∀ kind ∈ Kind.record :: Kind.builtin, kind ≠ .silent ∧ kind ≠ .impostor := by
    decide
  have inherits : observing.Inherits log Expander.Reporting := by
    intro name implementation items e bound inside constructed
    rcases lookup_observing bound with rfl | ⟨kind, member, builds⟩
    · contradiction
    · rw [construct_of_builds builds] at constructed
      exact Kind.reporting_of_build (heard kind member) inside constructed
  exact ⟨holds_of_resolveAt inherits node 0 e resolved,
    inLog_of_resolve familiar_observing resolved⟩

end Registry

/-- What reports accepts a value or leaves an error. -/
theorem Expander.Records.error_isSome_iff {e : Expander} {log : LogId} (records : e.Records log)
    (v : Value) : (e.visit v).error.isSome = true ↔ (e.visit v).accepted = false := by
  obtain ⟨outcome, reported⟩ := reported_of_reporting records.reporting v
  rw [Visit.error, Visit.accepted, reported]
  cases outcome <;> simp [Ending.error, Ending.accepted]

namespace Fixture

/-- What a case comes to alone, on an expander that was never run before. -/
structure Result.Alone (expander : Node) (case : Case) (result : Result) : Prop where
  name : result.name = case.name
  expected : result.expected = case.expect
  answer : ∃ answer, Registry.observing.answer expander case.value = some answer ∧
    result.actual = answer.accepted ∧ result.error = answer.error
  passed : result.passed = true ↔ result.actual = case.expect
  error : result.error.isSome = true ↔ result.actual = false

/-- The failure is of the kind, and the part, if there is one, occurs in its message. -/
def Expectation.MetBy (expectation : Expectation) (failure : Failure) : Prop :=
  failure.kind = expectation.kind ∧
    ∀ part, expectation.part = some part → part.toList <:+: failure.message.toList

/-- The result of a case, told from the visit. -/
def Case.result (e : Expander) (case : Case) : Result :=
  ⟨case.name, case.expect, (e.visit case.value).accepted, (e.visit case.value).error⟩

section
variable {fixture : Fixture} {log : LogId} {e : Expander}

/-- Whatever the expander remembers when the first case is run. -/
theorem runCases_eq (records : e.Records log) (memory : Memory) (journal : Journal)
    (cases : List Case) : runCases e memory journal cases = cases.map (Case.result e) := by
  induction cases generalizing memory journal with
  | nil => rfl
  | cons case rest ih =>
    have shows := records.shows memory case.value journal
    rw [runCases, ih, List.map_cons, Case.result, shows.accepted, shows.error]

theorem alone_iff {expander : Node} (resolved : (Registry.observing.resolve expander log).1 = .ok e)
    (case : Case) (result : Result) : result.Alone expander case ↔ case.result e = result := by
  have answers := Registry.answer_of_resolve Registry.familiar_observing resolved case.value
  constructor
  · rintro ⟨name, expected, ⟨answer, found, actual, error⟩, -, -⟩
    obtain rfl := Option.some.inj (answers.symm.trans found)
    obtain ⟨_, _, _, _⟩ := result
    simp only at name expected actual error
    rw [Case.result, name, expected, actual, error]
    rfl
  · rintro rfl
    exact ⟨rfl, rfl, ⟨_, answers, rfl, rfl⟩, beq_iff_eq,
      (Registry.records_of_observing resolved).error_isSome_iff case.value⟩

theorem alone_iff_map {expander : Node}
    (resolved : (Registry.observing.resolve expander log).1 = .ok e) (cases : List Case)
    (results : List Result) :
    List.Forall₂ (fun case result => Result.Alone expander case result) cases results ↔
      cases.map (Case.result e) = results := by
  simp only [alone_iff resolved, ← List.forall₂_map_left_iff, List.forall₂_eq_eq_eq]

theorem Expectation.admits_iff {expectation : Expectation} {failure : Failure} :
    expectation.admits failure = true ↔ expectation.MetBy failure := by
  rw [admits, MetBy, Bool.and_eq_true, beq_iff_eq, Option.all_eq_true]
  simp only [Substring.occurs_iff]

end

/-- Cases at some positions, in whatever order and however often. -/
def selecting (fixture : Fixture) (positions : List Nat) : Fixture :=
  { fixture with cases := positions.filterMap (fixture.cases[·]?) }

/-- The results of those cases, and any other outcome as it is. -/
def Outcome.selecting (positions : List Nat) : Outcome → Outcome
  | .cases results => .cases (positions.filterMap (results[·]?))
  | outcome => outcome

/-- How a fixture comes out, whether its tree resolves or not and whatever it expects. -/
structure Judged (fixture : Fixture) (resolution : Except Failure Expander) : Prop where
  cases : ∀ results, fixture.run = .cases results ↔
    fixture.expectError = none ∧ resolution.isOk = true ∧
      List.Forall₂ (fun case result => Result.Alone fixture.expander case result) fixture.cases
        results
  unexpectedError : ∀ failure, fixture.run = .unexpectedError failure ↔
    fixture.expectError = none ∧ resolution = .error failure
  missingError : ∀ kind, fixture.run = .missingError kind ↔
    ∃ expectation, fixture.expectError = some expectation ∧ expectation.kind = kind ∧
      resolution.isOk = true
  expectedError : ∀ failure, fixture.run = .expectedError failure ↔
    ∃ expectation, fixture.expectError = some expectation ∧
      resolution = .error failure ∧ expectation.MetBy failure
  wrongError : ∀ kind failure, fixture.run = .wrongError kind failure ↔
    ∃ expectation, fixture.expectError = some expectation ∧ expectation.kind = kind ∧
      resolution = .error failure ∧ ¬ expectation.MetBy failure

section
variable {fixture : Fixture} {e : Expander} {failure : Failure} {expectation : Expectation}

theorem run_of_cases (resolved : (Registry.observing.resolve fixture.expander 0).1 = .ok e)
    (expects : fixture.expectError = none) :
    fixture.run = .cases (fixture.cases.map (Case.result e)) := by
  simp only [Fixture.run, Journal.addLog_empty_fst, resolved, expects]
  exact congrArg Outcome.cases (runCases_eq (Registry.records_of_observing resolved) _ _ _)

theorem run_of_missing (resolved : (Registry.observing.resolve fixture.expander 0).1 = .ok e)
    (expects : fixture.expectError = some expectation) :
    fixture.run = .missingError expectation.kind := by
  simp only [Fixture.run, Journal.addLog_empty_fst, resolved, expects]

theorem run_of_unexpected
    (failed : (Registry.observing.resolve fixture.expander 0).1 = .error failure)
    (expects : fixture.expectError = none) : fixture.run = .unexpectedError failure := by
  simp only [Fixture.run, Journal.addLog_empty_fst, failed, expects]

theorem run_of_met
    (failed : (Registry.observing.resolve fixture.expander 0).1 = .error failure)
    (expects : fixture.expectError = some expectation) (met : expectation.MetBy failure) :
    fixture.run = .expectedError failure := by
  have admitted := Expectation.admits_iff.mpr met
  simp only [Fixture.run, Journal.addLog_empty_fst, failed, expects, admitted, if_true]

theorem run_of_unmet
    (failed : (Registry.observing.resolve fixture.expander 0).1 = .error failure)
    (expects : fixture.expectError = some expectation) (unmet : ¬ expectation.MetBy failure) :
    fixture.run = .wrongError expectation.kind failure := by
  have refused : ¬ expectation.admits failure = true := mt Expectation.admits_iff.mp unmet
  simp only [Fixture.run, Journal.addLog_empty_fst, failed, expects, if_neg refused]

/-- The results follow the cases, since each is told from its case alone. -/
theorem run_selecting (fixture : Fixture) (positions : List Nat) :
    (fixture.selecting positions).run = fixture.run.selecting positions := by
  cases resolved : (Registry.observing.resolve fixture.expander 0).1 with
  | ok e =>
    cases expects : fixture.expectError with
    | none =>
      have selected : (fixture.selecting positions).run = _ := run_of_cases resolved expects
      rw [selected, run_of_cases resolved expects, Outcome.selecting, Fixture.selecting,
        List.map_filterMap]
      simp only [List.getElem?_map]
    | some expectation =>
      have selected : (fixture.selecting positions).run = _ := run_of_missing resolved expects
      rw [selected, run_of_missing resolved expects]
      rfl
  | error failure =>
    cases expects : fixture.expectError with
    | none =>
      have selected : (fixture.selecting positions).run = _ := run_of_unexpected resolved expects
      rw [selected, run_of_unexpected resolved expects]
      rfl
    | some expectation =>
      by_cases met : expectation.MetBy failure
      · have selected : (fixture.selecting positions).run = _ := run_of_met resolved expects met
        rw [selected, run_of_met resolved expects met]
        rfl
      · have selected : (fixture.selecting positions).run = _ := run_of_unmet resolved expects met
        rw [selected, run_of_unmet resolved expects met]
        rfl

theorem assert_fails_iff (fixture : Fixture) :
    (∃ complaint, fixture.assert = .error complaint) ↔
      (∃ kind failure, fixture.run = .wrongError kind failure) ∨
        (∃ failure, fixture.run = .unexpectedError failure) ∨
        (∃ kind, fixture.run = .missingError kind) ∨
        ∃ results, fixture.run = .cases results ∧ ∃ result ∈ results, result.passed = false := by
  rw [assert]
  cases fixture.run with
  | cases results =>
    cases found : results.find? fun result => !result.passed with
    | none =>
      have passed := List.find?_eq_none.mp found
      simpa [Outcome.complaint?, found] using passed
    | some result =>
      have member := List.mem_of_find?_eq_some found
      have failed := List.find?_some found
      simp only [Bool.not_eq_true'] at failed
      simp only [Outcome.complaint?, found, Option.map_some]
      exact iff_of_true ⟨_, rfl⟩ (.inr (.inr (.inr ⟨results, rfl, result, member, failed⟩)))
  | _ => simp [Outcome.complaint?]

end

theorem judged (fixture : Fixture) :
    fixture.Judged (Registry.observing.resolve fixture.expander 0).1 := by
  cases resolved : (Registry.observing.resolve fixture.expander 0).1 with
  | ok e =>
    have ok : (Except.ok e : Except Failure Expander).isOk = true := rfl
    cases expects : fixture.expectError with
    | none =>
      have run := run_of_cases resolved expects
      constructor <;> simp [run, expects, ok, alone_iff_map resolved]
    | some expectation =>
      have run := run_of_missing resolved expects
      constructor <;> simp [run, expects, ok]
  | error failure =>
    have failed : (Except.error failure : Except Failure Expander).isOk = false := rfl
    cases expects : fixture.expectError with
    | none =>
      have run := run_of_unexpected resolved expects
      constructor <;> simp [run, expects, failed]
    | some expectation =>
      by_cases met : expectation.MetBy failure
      · have run := run_of_met resolved expects met
        constructor <;> simp [run, expects, failed, met]
      · have run := run_of_unmet resolved expects met
        constructor <;> simp [run, expects, failed, met]

/-- Each fixture comes out in the one way that its tree and its expectation call for, with results
that follow its cases, and it fails to hold in four ways. -/
theorem run_exact (fixture : Fixture) :
    fixture.Judged (Registry.observing.resolve fixture.expander 0).1 ∧
      (∀ positions, (fixture.selecting positions).run = fixture.run.selecting positions) ∧
      ((∃ complaint, fixture.assert = .error complaint) ↔
        (∃ kind failure, fixture.run = .wrongError kind failure) ∨
          (∃ failure, fixture.run = .unexpectedError failure) ∨
          (∃ kind, fixture.run = .missingError kind) ∨
          ∃ results, fixture.run = .cases results ∧ ∃ result ∈ results, result.passed = false) :=
  ⟨fixture.judged, fixture.run_selecting, fixture.assert_fails_iff⟩

end Fixture
end MatchTree
