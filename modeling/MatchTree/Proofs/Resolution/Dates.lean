import MatchTree.Proofs.Calendar.Forms
import MatchTree.Proofs.Resolution.Comparison

/-!
The tests of dates.

Three tests read a text as a date, two of them to hold it against another date. What they compare
are points in time at UTC, field by field; that is the order of the instants that the texts name,
in whatever form and at whatever offset they name them.
-/

set_option autoImplicit false
namespace MatchTree
open Calendar

namespace Moment

/-- A text that is read names one local time, and its point in time is what is read. -/
theorem exists_names_of_read? {s : String} {m : Moment} (read : read? s = some m) :
    ∃ z, Names s z ∧ (z.NoLeapSecond → m.IsRegular ∧ m.instant = z.instant) := by
  obtain ⟨z, names, utc⟩ := read?_eq_some_iff.mp read
  exact ⟨z, names, fun noLeap => Zoned.utc?_spec ⟨names.second_lt, noLeap⟩ utc⟩

theorem spec_of_names {s : String} {m : Moment} {z : Zoned} (read : read? s = some m)
    (names : Names s z) (noLeap : z.NoLeapSecond) : m.IsRegular ∧ m.instant = z.instant := by
  obtain ⟨z', names', spec⟩ := exists_names_of_read? read
  obtain rfl := names.unique names'
  exact spec noLeap

end Moment

/-- The moment that a value names, if it is a text that names one. -/
def Value.asMoment (v : Value) : Option Moment := v.asString.bind Moment.read?

theorem Value.asMoment_eq_some_iff {v : Value} {m : Moment} :
    v.asMoment = some m ↔ ∃ s, v = .string s ∧ Moment.read? s = some m := by
  cases v <;> simp [asMoment, asString]

theorem Test.momentOf_ok_iff {v : Value} {m : Moment} :
    momentOf v = .ok m ↔ v.asMoment = some m := by
  cases v with
  | string s =>
    cases read : Moment.read? s <;>
      simp [momentOf, textOf, Value.asMoment, Value.asString, read, bind, pure, throw, throwThe,
        MonadExceptOf.throw, Except.bind, Except.pure]
  | _ => simp [momentOf, textOf, Value.asMoment, Value.asString, bind, Except.bind]

theorem Test.check_isDateTime_ok_iff {v : Value} :
    isDateTime.check v = .ok () ↔ ∃ m, v.asMoment = some m := by
  simp only [check, ok_bind_iff, momentOf_ok_iff]
  exact exists_congr fun m => and_iff_left rfl

theorem Test.check_isDateTime_of_unread {s : String} (unread : Moment.read? s = none) :
    isDateTime.check (.string s) = .error (.notDate (.string s)) := by
  simp [check, momentOf, textOf, unread, bind, throw, throwThe, MonadExceptOf.throw, Except.bind]

theorem Arguments.string_ok_iff {name : String} {item : Argument Expander} {s : String} :
    Arguments.string ⟨name, [item]⟩ 0 = .ok s ↔ item = .literal (.string s) := by
  cases item with
  | nested e => simp [Arguments.string, Arguments.literal, Arguments.invalid, bind, Except.bind]
  | literal a =>
    have read : Arguments.literal ⟨name, [.literal a]⟩ 0 = .ok a := rfl
    rw [Arguments.string, read]
    cases a <;> simp [Value.asString, Arguments.invalid, bind, pure, Except.bind, Except.pure]

/-- A bound is a single text that can be read as a date. -/
theorem Kind.momentTest_ok_iff {test : Moment → Test} {t : Test} {name : String}
    {items : List (Argument Expander)} :
    Kind.momentTest test ⟨name, items⟩ = .ok t ↔
      ∃ a bound, items = [.literal a] ∧ a.asMoment = some bound ∧ t = test bound := by
  rw [Kind.momentTest, ok_bind_iff]
  constructor
  · rintro ⟨_, counted, read⟩
    obtain ⟨some, single⟩ := Arguments.checkCount_ok_iff.mp counted
    obtain ⟨item, rfl⟩ := List.length_eq_one_iff.mp (Nat.le_antisymm (single 1 rfl) some)
    obtain ⟨b, given, read⟩ := ok_bind_iff.mp read
    obtain rfl := Arguments.string_ok_iff.mp given
    cases dated : Moment.read? b with
    | none => simp [dated, Arguments.invalid] at read
    | some bound =>
      rw [dated] at read
      exact ⟨_, bound, rfl, dated, (Except.ok.inj read).symm⟩
  · rintro ⟨a, bound, rfl, dated, rfl⟩
    obtain ⟨b, rfl, read⟩ := Value.asMoment_eq_some_iff.mp dated
    refine ⟨(), rfl, ok_bind_iff.mpr ⟨b, Arguments.string_ok_iff.mpr rfl, ?_⟩⟩
    rw [read]
    rfl

namespace Side

def dateKind : Side → Kind
  | above => .after
  | below => .before

def dateTest : Side → Moment → Test
  | above => .after
  | below => .before

def dateExpander (side : Side) (log : LogId) (bound : Moment) : Expander :=
  .test log (side.dateTest bound)

variable {side : Side} {log : LogId} {bound : Moment}

theorem makes_date_iff {registry : Registry} {name : String}
    (stands : registry.StandsFor name side.dateKind) {arguments : List (Argument Node)}
    {e : Expander} :
    registry.Makes log ⟨name, arguments⟩ e ↔ ∃ a bound, arguments = [.literal a] ∧
      a.asMoment = some bound ∧ e = side.dateExpander log bound := by
  refine stands.makes_single_iff fun items e => ?_
  have build : side.dateKind.build ⟨name, items⟩ log =
      (Kind.momentTest side.dateTest ⟨name, items⟩).map (.test log) := by
    cases side <;> rfl
  rw [build]
  constructor
  · intro built
    obtain ⟨t, tested, rfl⟩ := ok_of_map built
    obtain ⟨a, bound, rfl, dated, rfl⟩ := Kind.momentTest_ok_iff.mp tested
    exact ⟨a, bound, rfl, dated, rfl⟩
  · rintro ⟨a, bound, rfl, dated, rfl⟩
    rw [Kind.momentTest_ok_iff.mpr ⟨a, bound, rfl, dated, rfl⟩]
    rfl

/-! ## Verdicts -/

theorem check_date_ok_iff {v : Value} :
    (side.dateTest bound).check v = .ok () ↔ ∃ m, v.asMoment = some m ∧ side.Holds bound m := by
  cases side <;>
    simp only [dateTest, Test.check, ok_bind_iff, Test.momentOf_ok_iff, Test.require_ok_iff,
      decide_eq_true_eq, Holds]

/-- What is no date is refused by all three tests in the same words. -/
theorem check_date_of_error {v : Value} {mismatch : Mismatch}
    (refused : Test.isDateTime.check v = .error mismatch) :
    (side.dateTest bound).check v = .error mismatch := by
  cases dated : Test.momentOf v with
  | ok m => simp [Test.check, dated, bind, Except.bind, pure, Except.pure] at refused
  | error other =>
    rw [Test.check, dated] at refused
    obtain rfl := Except.error.inj refused
    cases side <;> simp [dateTest, Test.check, dated, bind, Except.bind]

theorem accepted_date_iff {v : String} {m : Moment} (read : Moment.read? v = some m) :
    ((side.dateExpander log bound).answer (.string v)).accepted = true ↔ side.Holds bound m := by
  rw [dateExpander, Expander.accepted_test_iff, check_date_ok_iff]
  simp [Value.asMoment, Value.asString, read]

theorem not_both_dates (log : LogId) (bound : Moment) (v : Value) :
    ¬ (((above.dateExpander log bound).answer v).accepted = true ∧
      ((below.dateExpander log bound).answer v).accepted = true) := by
  rintro ⟨after, before⟩
  rw [dateExpander, Expander.accepted_test_iff] at after before
  obtain ⟨m, dated, after⟩ := check_date_ok_iff.mp after
  obtain ⟨m', dated', before⟩ := check_date_ok_iff.mp before
  obtain rfl := Option.some.inj (dated.symm.trans dated')
  exact Moment.lt_asymm after before

end Side

namespace Registry
variable {registry : Registry}

/-- The two tests against a date hold instants against each other. A text names at most one local
time and offset, in whatever form; if the seconds of two texts are below 60, one is accepted on the
side of the other on which its instant lies. So to be after is the converse of to be before, no
text is both, and a text can be put for another of the same instant, as the bound or as what is
held against it. What is no date is refused by these tests as by the one without a bound. -/
theorem dates_compare_instants {names : Side → String} {plain : String}
    (stands : ∀ side, registry.StandsFor (names side) side.dateKind)
    (standsPlain : registry.StandsFor plain .isDateTime) (log : LogId) :
    ∃ (test : Side → Moment → Expander) (valid : Expander),
      (∀ side arguments e, registry.Makes log ⟨names side, arguments⟩ e ↔
        ∃ b bound, arguments = [.literal (.string b)] ∧ Moment.read? b = some bound ∧
          e = test side bound) ∧
      (∀ arguments e, registry.Makes log ⟨plain, arguments⟩ e ↔ arguments = [] ∧ e = valid) ∧
      (∀ e, e = valid ∨ (∃ side bound, e = test side bound) →
        (∀ memory v journal, let pass := e.run memory v journal
          pass.accepted = (e.answer v).accepted ∧ pass.error = (e.answer v).error) ∧
        ∀ s, Moment.read? s = none → (e.answer (.string s)).accepted = false ∧
          (e.answer (.string s)).error = some (Mismatch.notDate (.string s)).message) ∧
      (∀ s m, Moment.read? s = some m →
        (valid.answer (.string s)).accepted = true ∧ ∃! z, Names s z) ∧
      (∀ b v bound m, Moment.read? b = some bound → Moment.read? v = some m →
        ((test .above bound).answer (.string v)).accepted =
          ((test .below m).answer (.string b)).accepted ∧
        ∀ zb zv, Names b zb → Names v zv → zb.NoLeapSecond → zv.NoLeapSecond →
          ∀ side, ((test side bound).answer (.string v)).accepted = true ↔
            side.Holds zb.instant zv.instant) ∧
      (∀ bound v, ¬ (((test .above bound).answer v).accepted = true ∧
        ((test .below bound).answer v).accepted = true)) ∧
      ∀ s s' m m' z z', Moment.read? s = some m → Moment.read? s' = some m' →
        Names s z → Names s' z' → z.NoLeapSecond → z'.NoLeapSecond → z.instant = z'.instant →
          (∀ side, test side m = test side m') ∧
          ∀ side bound, ((test side bound).answer (.string s)).accepted =
            ((test side bound).answer (.string s')).accepted := by
  refine ⟨fun side => side.dateExpander log, .test log .isDateTime, ?_, ?_, ?_, ?_, ?_, ?_, ?_⟩
  · intro side arguments e
    rw [Side.makes_date_iff (stands side)]
    simp only [Value.asMoment_eq_some_iff]
    constructor
    · rintro ⟨_, bound, rfl, ⟨b, rfl, read⟩, rfl⟩
      exact ⟨b, bound, rfl, read, rfl⟩
    · rintro ⟨b, bound, rfl, read, rfl⟩
      exact ⟨_, bound, rfl, ⟨b, rfl, read⟩, rfl⟩
  · exact fun _ _ => standsPlain.makes_plain_iff fun _ => rfl
  · intro e test
    obtain ⟨t, rfl, refuses⟩ : ∃ t, e = .test log t ∧ ∀ v mismatch,
        Test.isDateTime.check v = .error mismatch → t.check v = .error mismatch := by
      obtain rfl | ⟨side, bound, rfl⟩ := test
      · exact ⟨.isDateTime, rfl, fun _ _ => id⟩
      · exact ⟨side.dateTest bound, rfl, fun _ _ => Side.check_date_of_error⟩
    constructor
    · intro memory v journal
      obtain ⟨accepted, error, _⟩ := Expander.run_test log t memory v journal
      exact ⟨accepted, error⟩
    · exact fun s unread => Expander.answer_test_of_error log
        (refuses _ _ (Test.check_isDateTime_of_unread unread))
  · intro s m read
    obtain ⟨z, names, _⟩ := Moment.exists_names_of_read? read
    refine ⟨(Expander.accepted_test_iff log _ _).mpr
      (Test.check_isDateTime_ok_iff.mpr ⟨m, read⟩), z, names,
      fun z' names' => names.unique names'⟩
  · intro b v bound m read read'
    refine ⟨?_, fun zb zv names names' noLeap noLeap' side => ?_⟩
    · rw [Bool.eq_iff_iff, Side.accepted_date_iff read', Side.accepted_date_iff read]
      rfl
    · rw [Side.accepted_date_iff read']
      obtain ⟨regular, same⟩ := Moment.spec_of_names read names noLeap
      obtain ⟨regular', same'⟩ := Moment.spec_of_names read' names' noLeap'
      rw [← same, ← same']
      cases side with
      | above => exact Moment.lt_iff_instant_lt regular regular'
      | below => exact Moment.lt_iff_instant_lt regular' regular
  · exact Side.not_both_dates log
  · intro s s' m m' z z' read read' names names' noLeap noLeap' same
    obtain ⟨regular, at_z⟩ := Moment.spec_of_names read names noLeap
    obtain ⟨regular', at_z'⟩ := Moment.spec_of_names read' names' noLeap'
    obtain rfl : m = m' :=
      (Moment.instant_inj regular regular').mp (at_z.trans (same.trans at_z'.symm))
    refine ⟨fun _ => rfl, fun side bound => ?_⟩
    rw [Bool.eq_iff_iff, Side.accepted_date_iff read, Side.accepted_date_iff read']

/-- An hour behind UTC, the last half hour of a leap day is past the first midnight of March; in the
form of mail headers, a quarter of an hour later is a quarter to one. -/
theorem dates_compare_instants_of_leap_day :
    let early := "2024-02-29T23:30:00-01:00"
    let late := "Fri, 1 Mar 2024 00:45:00 +0000"
    (∀ side : Side, standard.StandsFor side.dateKind.title side.dateKind) ∧
      standard.StandsFor "isDateTime" .isDateTime ∧
      ∃ after before valid : Expander,
        standard.Makes 0 ⟨"after", [.literal (.string early)]⟩ after ∧
        standard.Makes 0 ⟨"before", [.literal (.string late)]⟩ before ∧
        standard.Makes 0 ⟨"isDateTime", []⟩ valid ∧
        (after.answer (.string late)).accepted = true ∧
        (before.answer (.string early)).accepted = true ∧
        (after.answer (.string "2024-03-01")).accepted = false ∧
        (before.answer (.string "yesterday")).error =
          (valid.answer (.string "yesterday")).error := by
  intro early late
  have stands (side : Side) : standard.StandsFor side.dateKind.title side.dateKind :=
    standsFor_standard (by cases side <;> decide)
  have standsPlain := @standsFor_standard .isDateTime (by decide)
  obtain ⟨test, valid, made, plain, tests, _, compared, _⟩ :=
    dates_compare_instants stands standsPlain 0
  obtain ⟨bound, read⟩ := Option.isSome_iff_exists.mp
    (show (Moment.read? early).isSome by decide +kernel)
  obtain ⟨m, read'⟩ := Option.isSome_iff_exists.mp
    (show (Moment.read? late).isSome by decide +kernel)
  obtain ⟨d, read''⟩ := Option.isSome_iff_exists.mp
    (show (Moment.read? "2024-03-01").isSome by decide +kernel)
  let z : Zoned := ⟨⟨⟨2024, 2, 29, by decide⟩, ⟨84600, 0⟩⟩, -3600⟩
  let z' : Zoned := ⟨⟨⟨2024, 3, 1, by decide⟩, ⟨2700, 0⟩⟩, 0⟩
  let z'' : Zoned := ⟨⟨⟨2024, 3, 1, by decide⟩, .midnight⟩, 0⟩
  have named : Names early z := ⟨.internet, by decide +kernel⟩
  have named' : Names late z' := ⟨.mail, by decide +kernel⟩
  have named'' : Names "2024-03-01" z'' := ⟨.day, by decide +kernel⟩
  have later := (compared _ _ _ _ read read').2 z z' named named' (by decide) (by decide)
  have midnight := (compared _ _ _ _ read read'').2 z z'' named named'' (by decide) (by decide)
  have order : z.instant < z'.instant ∧ z''.instant < z.instant := by decide
  have unread : Moment.read? "yesterday" = none := by decide +kernel
  refine ⟨stands, standsPlain, test .above bound, test .below m, valid,
    (made .above _ _).mpr ⟨_, _, rfl, read, rfl⟩, (made .below _ _).mpr ⟨_, _, rfl, read', rfl⟩,
    (plain _ _).mpr ⟨rfl, rfl⟩, ?_, ?_, ?_, ?_⟩
  · exact (later .above).mpr order.1
  · rw [← (compared _ _ _ _ read read').1]
    exact (later .above).mpr order.1
  · exact Bool.not_eq_true _ ▸ fun accepted => lt_asymm order.2 ((midnight .above).mp accepted)
  · rw [((tests _ (.inr ⟨.below, m, rfl⟩)).2 _ unread).2, ((tests _ (.inl rfl)).2 _ unread).2]

end Registry
end MatchTree
