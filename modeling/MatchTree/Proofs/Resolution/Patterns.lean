import MatchTree.Proofs.Expander.Answer
import MatchTree.Proofs.Resolution.Kinds

/-!
The two ways to hold items against a pattern.

A `repeat` compares a literal by itself, and runs an expander and reads its error. With a `match`
of the literal for the expander, both come to the same. How strict the comparison is to be
matters to literals only.
-/

set_option autoImplicit false
namespace MatchTree

namespace Expander

theorem outcome_visitPattern_match (log : LogId) (p : Value) (strict : Bool) (v : Value) :
    (visitPattern (.nested (.structural log (.literal p))) strict v).outcome =
      (visitPattern (.literal p) false v).outcome :=
  outcome_visitPattern_nested rfl strict

theorem run_each_nested (log : LogId) (child : Expander) (strict strict' : Bool) (memory : Memory)
    (v : Value) (journal : Journal) :
    (each log (.nested child) strict').run memory v journal =
      (each log (.nested child) strict).run memory v journal := by
  -- the flag is handed on to the pattern, and only a literal looks at it
  have pattern : runPattern (.nested child) strict' = runPattern (.nested child) strict := by
    funext memories v journal
    rfl
  cases v with
  | array items => rw [run, run, pattern]
  | _ => rfl

end Expander

namespace Registry
variable {registry : Registry}

theorem StandsFor.resolve_each_nested (repeating : registry.StandsFor "repeat" .each)
    (node : Node) (strict : Bool) (log : LogId) :
    (registry.resolve ⟨"repeat", [.nested node, .literal (.bool strict)]⟩ log).1 =
      (registry.resolve node log).1.map fun child => .each log (.nested child) strict := by
  rw [resolve, repeating.resolveAt, resolveArguments_nested_fst, resolveAt_depth registry log node 0,
    resolve]
  cases (registry.resolveAt log 0 node).1 <;> rfl

/-- A lenient `repeat` of a literal and a `repeat` of a `match` of it give the same answers, errors
and counts, and a `repeat` of an expander runs the same whether it is strict or not. -/
theorem pattern_paths_agree (repeating : registry.StandsFor "repeat" .each)
    (matching : registry.StandsFor "match" .structural) (log log' : LogId) :
    (∀ p : Value, ∃ direct nested : Expander,
      (registry.resolve ⟨"repeat", [.literal p, .literal (.bool false)]⟩ log).1 = .ok direct ∧
      (registry.resolve ⟨"repeat", [.nested ⟨"match", [.literal p]⟩]⟩ log').1 = .ok nested ∧
      ∀ (v : Value) (memory memory' : Memory) (journal journal' : Journal),
        let pass := direct.run memory v journal
        let pass' := nested.run memory' v journal'
        pass'.accepted = pass.accepted ∧ pass'.error = pass.error ∧
          pass'.memory.matched = pass.memory.matched) ∧
    ∀ (node : Node) (child : Expander), (registry.resolve node log).1 = .ok child →
      ∃ strict lenient : Expander,
        (registry.resolve ⟨"repeat", [.nested node, .literal (.bool true)]⟩ log).1 = .ok strict ∧
        (registry.resolve ⟨"repeat", [.nested node, .literal (.bool false)]⟩ log).1 =
          .ok lenient ∧
        ∀ (memory : Memory) (v : Value) (journal : Journal),
          lenient.run memory v journal = strict.run memory v journal := by
  constructor
  · intro p
    let direct : Expander := .each log (.literal p) false
    let inner : Expander := .structural log' (.literal p)
    let nested : Expander := .each log' (.nested inner) true
    refine ⟨direct, nested, ?_, ?_, fun v memory memory' journal journal' => ?_⟩
    · rw [resolve, repeating.resolveAt]
      rfl
    · rw [resolve, repeating.resolveAt, resolveArguments_nested_fst, matching.resolveAt]
      rfl
    · -- both runs show what they visit, and the counts are read off the items' outcomes
      have same := Expander.outcome_visitPattern_match log' p true
      have alike : direct.AnswersAs nested := Expander.answersAs_each same
      have records : direct.Records log := ⟨trivial, rfl⟩
      have records' : nested.Records log' := ⟨trivial, rfl⟩
      have shows := records.shows memory v journal
      have shows' := records'.shows memory' v journal'
      refine ⟨?_, ?_, ?_⟩
      · rw [shows'.accepted, shows.accepted, alike.accepted]
      · rw [shows'.error, shows.error, alike.error]
      · rw [Expander.matched_run_each records', Expander.matched_run_each records,
          Expander.acceptedItems_congr same]
  · intro node child resolved
    refine ⟨.each log (.nested child) true, .each log (.nested child) false, ?_, ?_,
      Expander.run_each_nested log child true false⟩
    · rw [repeating.resolve_each_nested, resolved]
      rfl
    · rw [repeating.resolve_each_nested, resolved]
      rfl

/-- The first item has a key that the literal does not name, the second differs inside an array. -/
theorem pattern_paths_agree_of_inner_item :
    let p : Value := .object [("a", .array [.int 1])]
    let item : Value := .object [("a", .array [.int 1]), ("b", .null)]
    let v : Value := .array [item, .object [("a", .array [.int 2])]]
    let node : Node := ⟨"match", [.literal p]⟩
    standard.StandsFor "repeat" .each ∧ standard.StandsFor "match" .structural ∧
      (∃ nested : Expander, (standard.resolve ⟨"repeat", [.nested node]⟩ 1).1 = .ok nested ∧
        ∀ memory journal, (nested.run memory v journal).accepted = false ∧
          (nested.run memory v journal).memory.matched = 1 ∧
          (nested.run memory v journal).error =
            some "repeat element 1: at key \"a\": at index 0: value 2 does not match 1") ∧
      ∃ child strict lenient : Expander, (standard.resolve node 0).1 = .ok child ∧
        (standard.resolve ⟨"repeat", [.nested node, .literal (.bool true)]⟩ 0).1 = .ok strict ∧
        (standard.resolve ⟨"repeat", [.nested node, .literal (.bool false)]⟩ 0).1 = .ok lenient ∧
        ∀ memory journal, lenient.run memory v journal = strict.run memory v journal := by
  intro p item v node
  have repeating := @standsFor_standard .each (by decide)
  have matching := @standsFor_standard .structural (by decide)
  obtain ⟨paths, flags⟩ := pattern_paths_agree repeating matching 0 1
  refine ⟨repeating, matching, ?_, ?_⟩
  · obtain ⟨direct, nested, resolved, resolved', same⟩ := paths p
    refine ⟨nested, resolved', fun memory journal => ?_⟩
    obtain ⟨accepted, error, matched⟩ := same v .fresh memory .empty journal
    obtain rfl : Expander.each 0 (.literal p) false = direct := Except.ok.inj resolved
    -- the comparisons are opened by their equations, the rest of the run is evaluated
    have equal : (Value.int 1).looselyEquals (.int 1) = true := by decide
    have unequal : (Value.int 1).looselyEquals (.int 2) = false := by decide
    have first : Structure.compare false p item = .ok () := by
      simp only [p, item, Structure.compare, Structure.compareFields, Structure.compareItems,
        Table.get?_cons, equal, if_true]
      rfl
    have second : Structure.compare false p (.object [("a", .array [.int 2])]) =
        .error (.atKey "a" (.atIndex 0 (.differs (.int 2) (.int 1)))) := by
      simp only [p, Structure.compare, Structure.compareFields, Structure.compareItems,
        Table.get?_cons, unequal, if_true]
      rfl
    rw [accepted, error, matched]
    simp only [v, Expander.run, Expander.runItems, Expander.runPattern, first, second]
    decide +kernel
  · have resolved : (standard.resolve node 0).1 = .ok (.structural 0 (.literal p)) := by rfl
    obtain ⟨strict, lenient, resolved', resolved'', same⟩ := flags node _ resolved
    exact ⟨_, strict, lenient, resolved, resolved', resolved'', fun memory => same memory v⟩

end Registry
end MatchTree
