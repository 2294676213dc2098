import MatchTree.Proofs.Expander.Answer
import MatchTree.Proofs.Registry.Change
import MatchTree.Proofs.Resolution.Made

/-!
What a `repeat` makes of an array.

A run holds the items against the pattern one after the other and stops behind the first that is
refused. Each is judged as the pattern would judge it by itself, so the count, the error and the
entries of a run depend on the array alone, not on the runs before.
-/

set_option autoImplicit false
namespace MatchTree

/-- What a pattern makes of a value by itself: why it refuses it, if it does, and what is recorded
meanwhile. -/
structure Judgement where
  refusal : Option String
  entries : List Entry

/-- A check that came out as a judgement. -/
def Judgement.outcome (judgement : Judgement) : Except String Unit :=
  match judgement.refusal with
  | none => .ok ()
  | some reason => .error reason

namespace Expander

def judge (pattern : Argument Expander) (strict : Bool) (v : Value) : Judgement :=
  match pattern with
  | .literal p =>
    match Structure.compare strict p v with
    | .ok () => ⟨none, []⟩
    | .error mismatch => ⟨some mismatch.message, []⟩
  | .nested child =>
    let answer := child.answer v
    let reason := answer.error.getD s!"value {v.text} does not match #{child.name}"
    ⟨if answer.accepted then none else some reason, answer.entries⟩

/-- How many items come before the first that a pattern refuses. -/
def accordingItems (pattern : Argument Expander) (strict : Bool) (items : List Value) : Nat :=
  (items.takeWhile fun item => (judge pattern strict item).refusal.isNone).length

/-! ## Items -/

theorem outcome_judge (pattern : Argument Expander) (strict : Bool) (v : Value) :
    (visitPattern pattern strict v).outcome = (judge pattern strict v).outcome := by
  cases pattern with
  | literal p =>
    rw [visitPattern, judge]
    cases Structure.compare strict p v <;> rfl
  | nested child =>
    simp only [visitPattern, judge, answer_eq, reasonOr, name_visit, Visit.answer]
    cases (child.visit v).accepted <;> rfl

theorem entries_judge (pattern : Argument Expander) (strict : Bool) (v : Value) :
    Visit.entriesOfAll (visitPattern pattern strict v).inner =
      (judge pattern strict v).entries := by
  cases pattern with
  | literal p =>
    rw [visitPattern, judge]
    cases Structure.compare strict p v <;> rfl
  | nested child =>
    rw [visitPattern, judge, answer_eq]
    exact List.append_nil _

theorem isOk_judge (pattern : Argument Expander) (strict : Bool) (v : Value) :
    (visitPattern pattern strict v).outcome.isOk =
      (judge pattern strict v).refusal.isNone := by
  rw [outcome_judge, Judgement.outcome]
  cases (judge pattern strict v).refusal <;> rfl

theorem upTo_eq_take {α : Type} (found : α → Bool) (items : List α) :
    upTo found items = items.take ((items.takeWhile fun item => !found item).length + 1) := by
  induction items with
  | nil => rfl
  | cons item rest ih =>
    rw [upTo, List.takeWhile_cons]
    cases found item <;> simp [ih]

theorem entriesOfAll_visitItems (pattern : Argument Expander) (strict : Bool)
    (items : List Value) :
    Visit.entriesOfAll (visitItems (visitPattern pattern strict) 0 items).inner =
      (items.take (accordingItems pattern strict items + 1)).flatMap fun item =>
        (judge pattern strict item).entries := by
  rw [inner_visitItems, upTo_eq_take, Visit.entriesOfAll_eq_flatMap, List.flatMap_assoc]
  simp only [Bool.not_not, isOk_judge, ← Visit.entriesOfAll_eq_flatMap, entries_judge]
  rfl

/-- Either all items are accepted, or the first that is not makes the error. -/
theorem outcome_visitItems (pattern : Argument Expander) (strict : Bool) (index : Nat)
    (items : List Value) :
    let count := accordingItems pattern strict items
    let outcome := (visitItems (visitPattern pattern strict) index items).outcome
    (count = items.length ∧ outcome = .ok ()) ∨ ∃ item reason, items[count]? = some item ∧
      (judge pattern strict item).refusal = some reason ∧
      outcome = .error (Mismatch.atItem (index + count) reason).message := by
  induction items generalizing index with
  | nil => exact .inl ⟨rfl, rfl⟩
  | cons item rest ih =>
    have here := outcome_judge pattern strict item
    rw [Judgement.outcome] at here
    rw [visitItems, accordingItems, List.takeWhile_cons]
    cases refusal : (judge pattern strict item).refusal with
    | some reason =>
      rw [refusal] at here
      simp only [here]
      exact .inr ⟨item, reason, rfl, refusal, rfl⟩
    | none =>
      rw [refusal] at here
      simp only [here, Option.isNone_none, if_true, List.length_cons]
      -- the count of the rest is one less, and its first index one more
      rcases ih (index + 1) with ⟨all, done⟩ | ⟨other, reason, there, refused, failed⟩
      · exact .inl ⟨congrArg (· + 1) all, done⟩
      · refine .inr ⟨other, reason, there, refused, ?_⟩
        rw [failed, Nat.add_assoc, Nat.add_comm 1]
        rfl

/-! ## Runs -/

/-- A run of a `repeat` on an array came out as its pattern judges the items by themselves. -/
structure Repeats (log : LogId) (pattern : Argument Expander) (strict : Bool) (items : List Value)
    (memory : Memory) (journal : Journal) : Prop where
  matched : ((each log pattern strict).run memory (.array items) journal).memory.matched =
    accordingItems pattern strict items
  accepted : ((each log pattern strict).run memory (.array items) journal).accepted = true ↔
    accordingItems pattern strict items = items.length
  refused : ((each log pattern strict).run memory (.array items) journal).accepted = false →
    ∃ item reason, items[accordingItems pattern strict items]? = some item ∧
      (judge pattern strict item).refusal = some reason ∧
      ((each log pattern strict).run memory (.array items) journal).error =
        some s!"repeat element {accordingItems pattern strict items}: {reason}"
  leaves : ∃ stage, Leaves log (each log pattern strict) (.array items)
    (⟨.entrance, "repeat", .array items⟩ ::
      ((items.take (accordingItems pattern strict items + 1)).flatMap
        (fun item => (judge pattern strict item).entries) ++
      [⟨stage, "repeat", .array items⟩])) stage memory journal

/-- A run of a `repeat` on a value that is no array. -/
structure TurnsDown (log : LogId) (pattern : Argument Expander) (strict : Bool) (v : Value)
    (memory : Memory) (journal : Journal) : Prop where
  matched : ((each log pattern strict).run memory v journal).memory.matched = 0
  refused : ((each log pattern strict).run memory v journal).accepted = false
  leaves : ∃ stage, Leaves log (each log pattern strict) v
    [⟨.entrance, "repeat", v⟩, ⟨stage, "repeat", v⟩] stage memory journal

variable {log : LogId} {pattern : Argument Expander} {strict : Bool} {memory : Memory}

theorem repeats_of_recalls (same : (each log pattern strict).inLog log = each log pattern strict)
    (recalls : (each log pattern strict).Recalls memory) (items : List Value)
    (journal : Journal) : Repeats log pattern strict items memory journal := by
  have shows := recalls.shows same (.array items) journal
  have found := outcome_visitItems pattern strict 0 items
  simp only [Nat.zero_add] at found
  refine ⟨?_, ?_, fun refused => ?_, ?_⟩
  · rw [matched_run_of_settled same (recalls.settled same), acceptedItems, accordingItems]
    simp only [isOk_judge]
  · rw [shows.accepted, visit, Visit.accepted]
    rcases found with ⟨all, done⟩ | ⟨item, reason, there, _, failed⟩
    · simp [all, done, Ending.accepted]
    · -- the refused item stands at the count, so this is below the length
      have inside := (List.getElem?_eq_some_iff.mp there).1
      simp [failed, Ending.accepted, Nat.ne_of_lt inside]
  · rw [shows.accepted, visit, Visit.accepted] at refused
    rcases found with ⟨_, done⟩ | ⟨item, reason, there, refusal, failed⟩
    · simp [done, Ending.accepted] at refused
    · refine ⟨item, reason, there, refusal, ?_⟩
      rw [shows.error, visit, Visit.error]
      simp only [failed]
      rfl
  · obtain ⟨stage, entries, leaves⟩ := leaves_of_reported (v := .array items) same rfl
    have left := leaves memory journal (recalls.settled same)
    rw [entries] at left
    rw [← entriesOfAll_visitItems]
    exact ⟨stage, left⟩

theorem turnsDown_of_recalls (same : (each log pattern strict).inLog log = each log pattern strict)
    (recalls : (each log pattern strict).Recalls memory) {v : Value} (other : v.asArray = none)
    (journal : Journal) : TurnsDown log pattern strict v memory journal := by
  have reported : (each log pattern strict).visit v =
      ⟨"repeat", v, [], .reported (.error (Mismatch.notArray v).message)⟩ := by
    cases v with
    | array items => contradiction
    | _ => rfl
  have shows := recalls.shows same v journal
  refine ⟨?_, ?_, ?_⟩
  · rw [matched_run_of_settled same (recalls.settled same)]
    cases v with
    | array items => contradiction
    | _ => rfl
  · rw [shows.accepted, reported]
    rfl
  · obtain ⟨stage, entries, leaves⟩ := leaves_of_reported same (congrArg Visit.ending reported)
    have left := leaves memory journal (recalls.settled same)
    rw [entries, reported] at left
    exact ⟨stage, left⟩

end Expander

theorem Kind.build_each_ok_iff {name : String} {items : List (Argument Expander)} {log : LogId}
    {e : Expander} : Kind.each.build ⟨name, items⟩ log = .ok e ↔ ∃ pattern flag,
      items = flagged pattern flag ∧ e = .each log pattern (flag.getD true) := by
  rw [build]
  constructor
  · intro built
    obtain ⟨_, counted, built⟩ := ok_bind_iff.mp built
    obtain ⟨strict, read, built⟩ := ok_bind_iff.mp built
    obtain ⟨pattern, found, built⟩ := ok_bind_iff.mp built
    obtain ⟨first, flag, rfl, rfl⟩ := Arguments.exists_flagged counted read
    obtain rfl := Except.ok.inj found
    exact ⟨first, flag, rfl, (Except.ok.inj built).symm⟩
  · rintro ⟨pattern, flag, rfl, rfl⟩
    refine ok_bind_iff.mpr ⟨(), Arguments.checkCount_flagged name pattern flag, ?_⟩
    exact ok_bind_iff.mpr ⟨_, Arguments.flag_flagged name pattern flag true, rfl⟩

namespace Registry
variable {registry : Registry} {log : LogId}

/-- What is resolved to a first argument and a flag was written as these. -/
theorem flagged_of_related {arguments : List (Argument Node)} {pattern : Argument Expander}
    {flag : Option Bool}
    (related : List.Forall₂ (Argument.Related (registry.Makes log)) arguments
      (flagged pattern flag)) :
    ∃ first, arguments = flagged first flag ∧
      Argument.Related (registry.Makes log) first pattern := by
  obtain ⟨first, rest, here, later, rfl⟩ := List.forall₂_cons_right_iff.mp related
  refine ⟨first, ?_, here⟩
  cases flag with
  | none =>
    obtain rfl := List.forall₂_nil_right_iff.mp later
    rfl
  | some b =>
    obtain ⟨second, others, there, none, rfl⟩ := List.forall₂_cons_right_iff.mp later
    obtain rfl := List.forall₂_nil_right_iff.mp none
    cases there
    rfl

/-- After every run of a `repeat`, whatever it was run on before: the count is that of the items
before the first refused one, the answer is whether all were accepted, the error names the first
refused one, and a pattern that is a tree was run once on each item up to it. -/
theorem repeat_counts (familiar : registry.Familiar) {name : String}
    (repeating : registry.StandsFor name .each) {arguments : List (Argument Node)} {e : Expander}
    (made : registry.Makes log ⟨name, arguments⟩ e) :
    ∃ (first : Argument Node) (flag : Option Bool) (pattern : Argument Expander),
      arguments = flagged first flag ∧ Argument.Related (registry.Makes log) first pattern ∧
      e = .each log pattern (flag.getD true) ∧
      ∀ memory journal, e.Recalls memory →
        (∀ items, Expander.Repeats log pattern (flag.getD true) items memory journal) ∧
        ∀ v, v.asArray = none →
          Expander.TurnsDown log pattern (flag.getD true) v memory journal := by
  obtain ⟨items, related, built⟩ := repeating.makes_iff.mp made
  obtain ⟨pattern, flag, rfl, rfl⟩ := Kind.build_each_ok_iff.mp built
  obtain ⟨first, rfl, here⟩ := flagged_of_related related
  have same := made.inLog_eq familiar
  refine ⟨first, flag, pattern, rfl, here, rfl, fun memory journal recalls => ⟨?_, ?_⟩⟩
  · exact fun items => Expander.repeats_of_recalls same recalls items journal
  · exact fun v other => Expander.turnsDown_of_recalls same recalls other journal

/-- A run on three items, the second refused, after a run that accepted its two. -/
theorem repeat_counts_of_silent :
    let registry : Registry := (standard.registerKind "silent" .silent).1
    let choice : Node := ⟨"oneOf", [.nested ⟨"silent", []⟩, .nested ⟨"isEmpty", []⟩]⟩
    let arguments : List (Argument Node) := [.nested choice, .literal (.bool false)]
    registry.Familiar ∧ registry.StandsFor "repeat" .each ∧
      ∃ e, registry.Makes 0 ⟨"repeat", arguments⟩ e ∧ ∀ journal journal',
        let memory := (e.run .fresh (.array [.null, .null]) journal).memory
        let pass := e.run memory (.array [.null, .bool true, .null]) journal'
        e.Recalls memory ∧ memory.matched = 2 ∧ pass.memory.matched = 1 ∧
          pass.accepted = false ∧
          pass.error = some ("repeat element 1: none of the expanders matched: " ++
            "#silent did not match; value true is not empty") := by
  intro registry choice arguments
  have familiar : registry.Familiar := familiar_registerKind_standard "silent" .silent
  have repeating : registry.StandsFor "repeat" .each := ⟨.ofKind .each, rfl, rfl⟩
  let pattern : Argument Expander := .nested (.oneOf 0 [.silent 0, .test 0 .isEmpty])
  let e : Expander := .each 0 pattern false
  have made : registry.Makes 0 ⟨"repeat", arguments⟩ e := by rfl
  obtain ⟨_, _, pattern', _, _, same, runs⟩ := repeat_counts familiar repeating made
  obtain ⟨_, rfl, strict⟩ : 0 = 0 ∧ pattern = pattern' ∧ false = _ := Expander.each.inj same
  rw [← strict] at runs
  refine ⟨familiar, repeating, e, made, fun journal journal' => ?_⟩
  intro memory pass
  have recalls : e.Recalls memory := .run .fresh _ journal
  have first := (runs .fresh journal .fresh).1 [.null, .null]
  have second := (runs memory journal' recalls).1 [.null, .bool true, .null]
  have count : Expander.accordingItems pattern false [.null, .bool true, .null] = 1 := by
    decide +kernel
  have refused : pass.accepted = false := by
    rw [← Bool.not_eq_true, second.accepted, count]
    decide
  obtain ⟨item, reason, there, refusal, error⟩ := second.refused refused
  rw [count] at there error
  obtain rfl : Value.bool true = item := Option.some.inj there
  refine ⟨recalls, ?_, ?_, refused, ?_⟩
  · rw [first.matched]
    decide +kernel
  · rw [second.matched, count]
  · rw [error, ← Option.some.inj refusal]
    decide +kernel

end Registry
end MatchTree
