import Mathlib.Algebra.Order.Ring.Rat
import MatchTree.Proofs.Resolution.Made
import MatchTree.Proofs.Value.Numeric

/-!
The two tests against a bound.

Both hold the finite number that a value counts as against the finite number that the bound counts
as. So a value with a number is on one side, on the other or on the bound; and as integers are
rounded in their order, a verdict on two of them is right, though it may be missing.
-/

set_option autoImplicit false
namespace MatchTree

theorem Arguments.number_ok_iff {name : String} {item : Argument Expander} {bound : Finite} :
    Arguments.number ⟨name, [item]⟩ 0 = .ok bound ↔
      ∃ a, item = .literal a ∧ a.asNumber = some bound := by
  cases item with
  | nested e => simp [Arguments.number, Arguments.literal, Arguments.invalid, bind, Except.bind]
  | literal a =>
    have read : Arguments.literal ⟨name, [.literal a]⟩ 0 = .ok a := rfl
    rw [Arguments.number, read]
    cases number : a.asNumber <;>
      simp [Arguments.invalid, bind, pure, Except.bind, Except.pure, number]

/-- A bound is a single literal that counts as a finite number. -/
theorem Kind.numberTest_ok_iff {test : Finite → Test} {t : Test} {name : String}
    {items : List (Argument Expander)} :
    Kind.numberTest test ⟨name, items⟩ = .ok t ↔
      ∃ a bound, items = [.literal a] ∧ a.asNumber = some bound ∧ t = test bound := by
  rw [Kind.numberTest, ok_bind_iff]
  constructor
  · rintro ⟨_, counted, read⟩
    obtain ⟨some, single⟩ := Arguments.checkCount_ok_iff.mp counted
    obtain ⟨item, rfl⟩ := List.length_eq_one_iff.mp (Nat.le_antisymm (single 1 rfl) some)
    obtain ⟨bound, found, same⟩ := ok_bind_iff.mp read
    obtain ⟨a, rfl, number⟩ := Arguments.number_ok_iff.mp found
    exact ⟨a, bound, rfl, number, (Except.ok.inj same).symm⟩
  · rintro ⟨a, bound, rfl, number, rfl⟩
    exact ⟨(), rfl, ok_bind_iff.mpr ⟨bound, Arguments.number_ok_iff.mpr ⟨a, rfl, number⟩, rfl⟩⟩

/-- The sides of a bound. -/
inductive Side
  | above
  | below

namespace Side

def kind : Side → Kind
  | above => .greaterThan
  | below => .lowerThan

def test : Side → Finite → Test
  | above => .greaterThan
  | below => .lowerThan

/-- Something lies on this side of a bound. -/
def Holds {α : Type} [LT α] : Side → (bound number : α) → Prop
  | above, bound, number => bound < number
  | below, bound, number => number < bound

def expander (side : Side) (log : LogId) (bound : Finite) : Expander := .test log (side.test bound)

variable {side : Side} {log : LogId} {bound : Finite}

/-! ## Bounds -/

theorem makes_iff {registry : Registry} {name : String} (stands : registry.StandsFor name side.kind)
    {arguments : List (Argument Node)} {e : Expander} :
    registry.Makes log ⟨name, arguments⟩ e ↔ ∃ a bound, arguments = [.literal a] ∧
      a.asNumber = some bound ∧ e = side.expander log bound := by
  refine stands.makes_single_iff fun items e => ?_
  have build : side.kind.build ⟨name, items⟩ log =
      (Kind.numberTest side.test ⟨name, items⟩).map (.test log) := by
    cases side <;> rfl
  rw [build]
  constructor
  · intro built
    obtain ⟨t, tested, rfl⟩ := ok_of_map built
    obtain ⟨a, bound, rfl, number, rfl⟩ := Kind.numberTest_ok_iff.mp tested
    exact ⟨a, bound, rfl, number, rfl⟩
  · rintro ⟨a, bound, rfl, number, rfl⟩
    rw [Kind.numberTest_ok_iff.mpr ⟨a, bound, rfl, number, rfl⟩]
    rfl

/-! ## Verdicts -/

theorem check_ok_iff (v : Value) :
    (side.test bound).check v = .ok () ↔
      ∃ x, v.asNumber = some x ∧ side.Holds bound.toRat x.toRat := by
  cases found : v.asNumber with
  | none => cases side <;> simp [test, Test.check, Test.numberOf, found, bind, Except.bind]
  | some x =>
    cases side <;>
      simp [test, Test.check, Test.numberOf, found, bind, Except.bind, Test.require_ok_iff, Holds,
        Finite.toRat_lt_toRat_iff]

theorem check_of_not_number {v : Value} (none : v.asNumber = none) :
    (side.test bound).check v = .error (.notNumber v) := by
  cases side <;> simp [test, Test.check, Test.numberOf, none, bind, Except.bind]

theorem accepted_iff (v : Value) :
    ((side.expander log bound).answer v).accepted = true ↔
      ∃ x, v.asNumber = some x ∧ side.Holds bound.toRat x.toRat := by
  rw [expander, Expander.accepted_test_iff, check_ok_iff]

theorem accepted_of_number {v : Value} {x : Finite} (number : v.asNumber = some x) :
    ((side.expander log bound).answer v).accepted = true ↔ side.Holds bound.toRat x.toRat := by
  rw [accepted_iff, number]
  simp

theorem not_both (log : LogId) (bound : Finite) (v : Value) :
    ¬ (((above.expander log bound).answer v).accepted = true ∧
      ((below.expander log bound).answer v).accepted = true) := by
  rintro ⟨greater, lower⟩
  obtain ⟨x, number, greater⟩ := (accepted_iff v).mp greater
  exact lt_asymm greater ((accepted_of_number number).mp lower)

/-- Numbers other than the bound are on one side of it. -/
theorem one_side_iff {v : Value} {x : Finite} (number : v.asNumber = some x) :
    ((above.expander log bound).answer v).accepted ≠
        ((below.expander log bound).answer v).accepted ↔ x.toRat ≠ bound.toRat := by
  rw [Ne, Bool.eq_iff_iff, accepted_of_number number, accepted_of_number number, Holds, Holds]
  obtain more | same | less := lt_trichotomy bound.toRat x.toRat
  · simp [more, more.not_gt, more.ne']
  · simp [same]
  · simp [less, less.not_gt, less.ne]

/-- Values that count as one number are accepted alike. -/
theorem accepted_congr {v w : Value} {x y : Finite} (number : v.asNumber = some x)
    (number' : w.asNumber = some y) (same : x.toRat = y.toRat) :
    ((side.expander log bound).answer v).accepted =
      ((side.expander log bound).answer w).accepted := by
  rw [Bool.eq_iff_iff, accepted_of_number number, accepted_of_number number', same]

/-- Bounds that are one number accept alike. -/
theorem accepted_congr_bound {bound bound' : Finite} (same : bound.toRat = bound'.toRat)
    (v : Value) : ((side.expander log bound).answer v).accepted =
      ((side.expander log bound').answer v).accepted := by
  rw [Bool.eq_iff_iff, accepted_iff, accepted_iff, same]

theorem accepted_run (memory : Memory) (v : Value) (journal : Journal) :
    ((side.expander log bound).run memory v journal).accepted =
      ((side.expander log bound).answer v).accepted :=
  (Expander.run_test log (side.test bound) memory v journal).1

/-! ## Integers -/

/-- What is rounded to a side lies on it, and what lies there is rounded there or onto the bound. -/
theorem holds_units_iff {i j : Int64} :
    side.Holds (Double.unitsOfInt i.toInt) (Double.unitsOfInt j.toInt) ↔
      side.Holds i j ∧ Double.ofInt j.toInt ≠ Double.ofInt i.toInt := by
  have kept {i j : Int64} : Double.unitsOfInt i.toInt < Double.unitsOfInt j.toInt ↔
      i < j ∧ Double.ofInt i.toInt ≠ Double.ofInt j.toInt := by
    rw [Ne, Double.ofInt_eq_iff (natAbs_toInt_lt i) (natAbs_toInt_lt j),
      Int64.lt_iff_toInt_lt]
    constructor
    · intro less
      refine ⟨lt_of_not_ge fun back => ?_, ne_of_lt less⟩
      exact absurd (Double.unitsOfInt_mono back) (not_le_of_gt less)
    · rintro ⟨less, other⟩
      exact lt_of_le_of_ne (Double.unitsOfInt_mono (le_of_lt less)) other
  cases side with
  | above => rw [ne_comm]; exact kept
  | below => exact kept

theorem accepted_int_iff_units {b v : Int64} (given : (Value.int b).asNumber = some bound) :
    ((side.expander log bound).answer (.int v)).accepted = true ↔
      side.Holds (Double.unitsOfInt b.toInt) (Double.unitsOfInt v.toInt) := by
  obtain ⟨x, number, _, units⟩ := Value.exists_asNumber_int v
  obtain ⟨y, number', _, units'⟩ := Value.exists_asNumber_int b
  obtain rfl : y = bound := Option.some.inj (number'.symm.trans given)
  rw [accepted_of_number number, ← units, ← units']
  cases side <;> exact Finite.toRat_lt_toRat_iff

/-- What lies further on the side is accepted as well. -/
theorem accepted_int_of_further {b v w : Int64} (given : (Value.int b).asNumber = some bound)
    (accepted : ((side.expander log bound).answer (.int v)).accepted = true)
    (further : w = v ∨ side.Holds v w) :
    ((side.expander log bound).answer (.int w)).accepted = true := by
  obtain rfl | further := further
  · exact accepted
  rw [accepted_int_iff_units given] at accepted ⊢
  have ordered {i j : Int64} (less : i < j) :
      Double.unitsOfInt i.toInt ≤ Double.unitsOfInt j.toInt :=
    Double.unitsOfInt_mono (Int64.lt_iff_toInt_lt.mp less).le
  cases side with
  | above => exact lt_of_lt_of_le accepted (ordered further)
  | below => exact lt_of_le_of_lt (ordered further) accepted

end Side

namespace Registry
variable {registry : Registry}

/-- The two tests against one bound divide the values: those without a number are refused by both,
in the same words, those with another number than the bound are accepted by exactly one, and those
with its number by neither. An integer counts as the double nearest to it. So a verdict on integers
is never wrong, it is missing only where an integer is rounded to what the bound is rounded to, and
what lies further on a side is accepted as well. -/
theorem bounds_divide {names : Side → String}
    (stands : ∀ side, registry.StandsFor (names side) side.kind) (log : LogId) :
    ∃ test : Side → Finite → Expander,
      (∀ side arguments e, registry.Makes log ⟨names side, arguments⟩ e ↔
        ∃ a bound, arguments = [.literal a] ∧ a.asNumber = some bound ∧ e = test side bound) ∧
      (∀ side bound memory v journal, let pass := (test side bound).run memory v journal
        pass.accepted = ((test side bound).answer v).accepted ∧
          pass.error = ((test side bound).answer v).error) ∧
      (∀ bound v, ¬ (((test .above bound).answer v).accepted = true ∧
        ((test .below bound).answer v).accepted = true)) ∧
      (∀ side bound v, v.asNumber = none → ((test side bound).answer v).accepted = false ∧
        ((test side bound).answer v).error = some (Mismatch.notNumber v).message) ∧
      (∀ bound v x, v.asNumber = some x →
        (∀ side, ((test side bound).answer v).accepted = true ↔
          side.Holds bound.toRat x.toRat) ∧
        (((test .above bound).answer v).accepted ≠ ((test .below bound).answer v).accepted ↔
          x.toRat ≠ bound.toRat)) ∧
      ∀ b : Int64, ∃ bound, (Value.int b).asNumber = some bound ∧
        Double.ofInt b.toInt = .finite bound ∧ bound.Nearest b.toInt ∧ ∀ side (v : Int64),
        (((test side bound).answer (.int v)).accepted = true ↔
          side.Holds b v ∧ Double.ofInt v.toInt ≠ Double.ofInt b.toInt) ∧
        (b.toInt.natAbs ≤ 2 ^ 53 → v.toInt.natAbs ≤ 2 ^ 53 →
          Double.ofInt v.toInt = Double.ofInt b.toInt → v = b) ∧
        ∀ w, ((test side bound).answer (.int v)).accepted = true → w = v ∨ side.Holds v w →
          ((test side bound).answer (.int w)).accepted = true := by
  refine ⟨fun side => side.expander log, ?_, ?_, ?_, ?_, ?_, ?_⟩
  · exact fun side _ _ => Side.makes_iff (stands side)
  · intro side bound memory v journal
    obtain ⟨accepted, error, _⟩ := Expander.run_test log (side.test bound) memory v journal
    exact ⟨accepted, error⟩
  · exact Side.not_both log
  · exact fun side bound v none => Expander.answer_test_of_error log (Side.check_of_not_number none)
  · exact fun bound v x number =>
      ⟨fun side => Side.accepted_of_number number, Side.one_side_iff number⟩
  · intro b
    obtain ⟨bound, given, made, _⟩ := Value.exists_asNumber_int b
    refine ⟨bound, given, made, Value.nearest_of_asNumber_int given, fun side v => ?_⟩
    refine ⟨?_, fun small small' same => ?_, fun w => ?_⟩
    · exact (Side.accepted_int_iff_units given).trans Side.holds_units_iff
    · refine Int64.toInt_inj.mp ((Double.ofInt_equals_ofInt_iff small' small).mp ?_)
      rw [same, Double.equals_self_iff, made]
      exact Double.noConfusion
    · exact Side.accepted_int_of_further given

/-- Next to `2 ^ 53` there is an integer that is rounded to it, so no test tells the two apart; the
one after it is told apart, and so are all beyond. -/
theorem bounds_divide_of_rounded :
    let arguments : List (Argument Node) := [.literal (.int 9007199254740992)]
    (∀ side : Side, standard.StandsFor side.kind.title side.kind) ∧
      ∃ greater lower : Expander, standard.Makes 0 ⟨"greaterThan", arguments⟩ greater ∧
        standard.Makes 0 ⟨"lowerThan", arguments⟩ lower ∧
        (greater.answer (.int 9007199254740993)).accepted = false ∧
        (lower.answer (.int 9007199254740993)).accepted = false ∧
        (∀ w : Int64, 9007199254740994 < w → (greater.answer (.int w)).accepted = true) ∧
        (lower.answer (.string "five")).error =
          (greater.answer (.string "five")).error := by
  intro arguments
  have stands (side : Side) : standard.StandsFor side.kind.title side.kind :=
    standsFor_standard (by cases side <;> decide)
  obtain ⟨test, made, _, _, wordless, _, integers⟩ := bounds_divide stands 0
  obtain ⟨bound, given, _, _, exact⟩ := integers 9007199254740992
  have makes (side : Side) := (made side arguments _).mpr ⟨_, bound, rfl, given, rfl⟩
  have close : Double.ofInt (9007199254740993 : Int64).toInt =
      Double.ofInt (9007199254740992 : Int64).toInt := by decide +kernel
  have apart : Double.ofInt (9007199254740994 : Int64).toInt ≠
      Double.ofInt (9007199254740992 : Int64).toInt := by decide +kernel
  have refused (side : Side) :
      ((test side bound).answer (.int 9007199254740993)).accepted = false :=
    Bool.not_eq_true _ ▸ fun accepted => ((exact side _).1.mp accepted).2 close
  have beyond : (9007199254740992 : Int64) < 9007199254740994 := by decide
  have first := (exact .above 9007199254740994).1.mpr ⟨beyond, apart⟩
  have none : (Value.string "five").asNumber = none := by decide +kernel
  refine ⟨stands, _, _, makes .above, makes .below, refused .above, refused .below, ?_, ?_⟩
  · exact fun w beyond => (exact .above _).2.2 w first (.inr beyond)
  · rw [(wordless .below bound _ none).2, (wordless .above bound _ none).2]

/-- A text that spells an integer is the same to both tests as the integer, whether they are run on
it or built from it. -/
theorem numeric_text_counts {side : Side} {name : String}
    (stands : registry.StandsFor name side.kind) (log : LogId) {s : String} {i : Int64}
    (spells : Spells s i.toInt) :
    (∃ x y, (Value.string s).asNumber = some x ∧ (Value.int i).asNumber = some y ∧
      x.toRat = y.toRat) ∧
    (∀ arguments e, registry.Makes log ⟨name, arguments⟩ e → ∀ memory memory' journal journal',
      (e.run memory (.string s) journal).accepted =
        (e.run memory' (.int i) journal').accepted) ∧
    ∃ e e', registry.Makes log ⟨name, [.literal (.string s)]⟩ e ∧
      registry.Makes log ⟨name, [.literal (.int i)]⟩ e' ∧ ∀ v memory memory' journal journal',
        (e.run memory v journal).accepted = (e'.run memory' v journal').accepted := by
  obtain ⟨x, number, units⟩ := Value.exists_asNumber_string spells
  obtain ⟨y, number', _, units'⟩ := Value.exists_asNumber_int i
  have same : x.toRat = y.toRat := Finite.toRat_inj_iff.mpr (units.trans units'.symm)
  refine ⟨⟨x, y, number, number', same⟩, ?_, ?_⟩
  · intro arguments e made memory memory' journal journal'
    obtain ⟨a, bound, rfl, _, rfl⟩ := (Side.makes_iff stands).mp made
    rw [Side.accepted_run, Side.accepted_run]
    exact Side.accepted_congr number number' same
  · refine ⟨side.expander log x, side.expander log y, ?_, ?_, ?_⟩
    · exact (Side.makes_iff stands).mpr ⟨_, x, rfl, number, rfl⟩
    · exact (Side.makes_iff stands).mpr ⟨_, y, rfl, number', rfl⟩
    · intro v memory memory' journal journal'
      rw [Side.accepted_run, Side.accepted_run]
      exact Side.accepted_congr_bound same v

/-- An integer halfway between two doubles, spelled with a sign, zeros, a point and a power. -/
theorem numeric_text_counts_of_halfway :
    let text := "\t+00900719925474099.30E+01\u3000"
    let integer : Int64 := 9007199254740993
    standard.StandsFor "lowerThan" .lowerThan ∧ Spells text integer.toInt ∧
      ∃ e e' : Expander, standard.Makes 0 ⟨"lowerThan", [.literal (.string text)]⟩ e ∧
        standard.Makes 0 ⟨"lowerThan", [.literal (.int integer)]⟩ e' ∧
        ∀ v memory journal, (e.run memory v journal).accepted =
          (e'.run memory v journal).accepted := by
  intro text integer
  have stands := @standsFor_standard .lowerThan (by decide)
  have spells : Spells text integer.toInt := by
    refine ⟨['\t'], ['\u3000'],
      ⟨some false, "00900719925474099".toList, some "30".toList,
        some ⟨true, some false, "01".toList, by decide, by decide⟩,
        by decide, by decide, by decide⟩,
      fun _ member => List.mem_singleton.mp member ▸ rfl,
      fun _ member => List.mem_singleton.mp member ▸ rfl, by decide, ?_⟩
    decide +kernel
  obtain ⟨_, _, e, e', made, made', alike⟩ :=
    @numeric_text_counts _ .below _ stands 0 _ _ spells
  refine ⟨stands, spells, e, e', made, made', fun v memory journal => ?_⟩
  exact alike v memory memory journal journal

end Registry
end MatchTree
