import MatchTree.Proofs.Expander.Block
import MatchTree.Proofs.Resolution.Kinds
import MatchTree.Proofs.Value.Equality

/-!
When a value agrees with a literal pattern.

Two containers agree if what they hold agrees, so agreement can be read field by field and item
by item. A strict comparison comes to the same as loose equality, which counts the fields where
the comparison looks for keys that are left over.
-/

set_option autoImplicit false
namespace MatchTree

namespace Structure
variable {strict : Bool}

/-- The value agrees with the pattern. -/
def Agrees (strict : Bool) (pattern actual : Value) : Prop := compare strict pattern actual = .ok ()

/-- Whether two values are compared part by part. -/
def byParts : Value → Value → Bool
  | .object _, .object _ | .array _, .array _ => true
  | _, _ => false

theorem compare_whole {pattern actual : Value} (whole : byParts pattern actual = false) :
    compare strict pattern actual =
      if pattern.looselyEquals actual then .ok () else .error (.differs actual pattern) := by
  cases pattern <;> cases actual <;> first | contradiction | exact compare.eq_def _ _ _

theorem agrees_whole_iff {pattern actual : Value} (whole : byParts pattern actual = false) :
    Agrees strict pattern actual ↔ pattern.looselyEquals actual = true := by
  rw [Agrees, compare_whole whole]
  split <;> simp_all

/-- A comparison with an error that says where, and then the rest. -/
theorem mapError_bind_eq_ok_iff {f : Mismatch → Mismatch} {first rest : Except Mismatch Unit} :
    (do first.mapError f; rest) = .ok () ↔ first = .ok () ∧ rest = .ok () := by
  cases first <;> simp [Except.mapError, bind, Except.bind]

theorem compareFields_ok_iff {found : Fields} {actual : Value} {expected : List (String × Value)} :
    compareFields strict found actual expected = .ok () ↔
      ∀ field ∈ expected, ∃ v, found.get? field.1 = some v ∧ Agrees strict field.2 v := by
  induction expected with
  | nil => simp [compareFields, pure, Except.pure]
  | cons field rest ih =>
    obtain ⟨key, pattern⟩ := field
    rw [compareFields, List.forall_mem_cons, ← ih]
    cases found.get? key with
    | none => simp
    | some v => simp only [mapError_bind_eq_ok_iff, Option.some.injEq, exists_eq_left', Agrees]

theorem compareItems_ok_iff {index : Nat} {patterns items : List Value}
    (count : patterns.length = items.length) :
    compareItems strict index patterns items = .ok () ↔
      ∀ (i : Nat) (pattern v : Value), patterns[i]? = some pattern → items[i]? = some v →
        Agrees strict pattern v := by
  induction patterns generalizing index items with
  | nil => simp [compareItems, pure, Except.pure]
  | cons pattern patterns ih =>
    cases items with
    | nil => simp at count
    | cons v rest =>
      rw [compareItems, mapError_bind_eq_ok_iff, ih (Nat.succ.inj count)]
      constructor
      · rintro ⟨first, later⟩ i p x here there
        cases i with
        | zero =>
          obtain rfl := Option.some.inj here
          obtain rfl := Option.some.inj there
          exact first
        | succ i => exact later i p x here there
      · exact fun all => ⟨all 0 pattern v rfl rfl, fun i => all (i + 1)⟩

theorem agrees_array_iff {patterns items : List Value} :
    Agrees strict (.array patterns) (.array items) ↔
      patterns.length = items.length ∧
        ∀ (i : Nat) (pattern v : Value), patterns[i]? = some pattern → items[i]? = some v →
          Agrees strict pattern v := by
  rw [Agrees, compare]
  split
  · rename_i count
    rw [compareItems_ok_iff count, and_iff_right count]
  · rename_i ne
    simp [ne, throw, throwThe, MonadExceptOf.throw]

/-- What a strict comparison looks for at the end: a key that the pattern does not name. -/
theorem find?_unnamed_eq_none_iff {expected found : List (String × Value)} :
    (found.find? fun field => !Table.contains expected field.1) = none ↔
      Table.keys found ⊆ Table.keys expected := by
  rw [List.find?_eq_none]
  constructor
  · intro named key member
    obtain ⟨field, there, rfl⟩ := List.mem_map.mp member
    have known := named field there
    simpa [Table.contains_iff] using known
  · intro within field member
    simpa [Table.contains_iff] using within (Table.mem_keys member)

theorem compare_object (expected found : List (String × Value)) :
    compare strict (.object expected) (.object found) = do
      compareFields strict found (.object found) expected
      match if strict then found.find? fun field => !Table.contains expected field.1 else none with
      | some field => throw (.extraKey field.1 (.object found))
      | none => return () := by
  rw [compare]
  cases strict <;> rfl

theorem agrees_object_iff {expected found : List (String × Value)} :
    Agrees strict (.object expected) (.object found) ↔
      (∀ field ∈ expected, ∃ v, Table.get? found field.1 = some v ∧ Agrees strict field.2 v) ∧
        (strict = true → Table.keys found ⊆ Table.keys expected) := by
  rw [Agrees, compare_object, ← @compareFields_ok_iff strict found (.object found),
    ← find?_unnamed_eq_none_iff]
  cases compareFields strict found (.object found) expected with
  | error mismatch => simp [bind, Except.bind]
  | ok u =>
    cases strict with
    | false => simp [bind, Except.bind, pure, Except.pure]
    | true =>
      cases found.find? fun field => !Table.contains expected field.1 <;>
        simp [bind, Except.bind, pure, Except.pure, throw, throwThe, MonadExceptOf.throw]

/-- A strict comparison is loose equality, whatever is inside. -/
theorem agrees_strictly_iff {pattern actual : Value} (distinct : pattern.Distinct)
    (distinct' : actual.Distinct) :
    Agrees true pattern actual ↔ pattern.looselyEquals actual = true := by
  induction pattern generalizing actual with
  | array patterns ih =>
    cases actual with
    | array items =>
      rw [agrees_array_iff, Value.looselyEquals_array_iff]
      refine and_congr_right fun _ => forall_congr' fun i => ?_
      refine forall_congr' fun p => forall_congr' fun v => ?_
      refine imp_congr_right fun here => imp_congr_right fun there => ?_
      have member := List.mem_of_getElem? here
      exact ih p member (Value.distinctItems_iff.mp distinct p member)
        (Value.distinctItems_iff.mp distinct' v (List.mem_of_getElem? there))
    | _ => exact agrees_whole_iff rfl
  | object expected ih =>
    cases actual with
    | object found =>
      obtain ⟨nodup, distinct⟩ := distinct
      obtain ⟨nodup', distinct'⟩ := distinct'
      have fields : (∀ field ∈ expected, ∃ v,
          Table.get? found field.1 = some v ∧ Agrees true field.2 v) ↔
          ∀ field ∈ expected, ∃ v,
            Table.get? found field.1 = some v ∧ field.2.looselyEquals v = true := by
        refine forall₂_congr fun field member => exists_congr fun v => ?_
        refine and_congr_right fun known => ?_
        exact ih field member (Value.distinctFields_iff.mp distinct field member)
          (Value.distinctFields_iff.mp distinct' _ (Table.mem_of_get? known))
      rw [agrees_object_iff, Value.looselyEquals_object_iff, fields, and_comm]
      refine and_congr_left fun equal => ?_
      -- all keys of the pattern are found, so none is left over if there are as many
      rw [← Table.keys_subset_iff nodup nodup' (Table.keys_subset_of_get? fun field member =>
        (equal field member).imp fun _ => And.left)]
      simp
    | _ => exact agrees_whole_iff rfl
  | _ => exact agrees_whole_iff (by cases actual <;> rfl)

end Structure

namespace Expander

theorem visitItems_literal_ok_iff {pattern : Value} {strict : Bool} {index : Nat}
    {items : List Value} :
    (visitItems (visitPattern (.literal pattern) strict) index items).outcome = .ok () ↔
      ∀ item ∈ items, Structure.Agrees strict pattern item := by
  induction items generalizing index with
  | nil => simp [visitItems]
  | cons item rest ih =>
    rw [visitItems, visitPattern, List.forall_mem_cons, Structure.Agrees]
    cases Structure.compare strict pattern item with
    | ok u => simpa [Except.mapError] using ih
    | error mismatch => simp [Except.mapError]

theorem accepted_reported_iff {outcome : Except String Unit} :
    (Ending.reported outcome).accepted = true ↔ outcome = .ok () := by
  cases outcome <;> simp [Ending.accepted]

theorem run_each_literal_iff {log : LogId} {pattern : Value} {strict : Bool} {items : List Value}
    {memory : Memory} {journal : Journal} :
    ((each log (.literal pattern) strict).run memory (.array items) journal).accepted = true ↔
      ∀ item ∈ items, Structure.Agrees strict pattern item := by
  have records : (each log (.literal pattern) strict).Records log := ⟨trivial, rfl⟩
  rw [(records.shows memory _ journal).accepted]
  exact accepted_reported_iff.trans visitItems_literal_ok_iff

theorem run_inArray_iff {log : LogId} {needle : Value} {items : List Value} {memory : Memory}
    {journal : Journal} :
    ((test log (.inArray needle)).run memory (.array items) journal).accepted = true ↔
      ∃ item ∈ items, item.looselyEquals needle = true := by
  have records : (test log (.inArray needle)).Records log := ⟨trivial, rfl⟩
  rw [(records.shows memory _ journal).accepted, visit, Visit.accepted, accepted_reported_iff,
    Test.check]
  simp only [Test.itemsOf, bind, Except.bind, Test.require]
  split <;> simp_all [Except.mapError]

end Expander

namespace Registry

/-- A tree of a usual kind with literals only is what the kind builds from these. -/
theorem resolve_literals {kind : Kind} (member : kind ∈ Kind.builtin) (values : List Value)
    (log : LogId) :
    (standard.resolve ⟨kind.title, values.map .literal⟩ log).1 =
      kind.build ⟨kind.title, values.map .literal⟩ log := by
  have items (name : String) (position : Nat) :
      (standard.resolveArguments log 0 name position (values.map .literal)).1 =
        .ok (values.map .literal) := by
    induction values generalizing position with
    | nil => rfl
    | cons v rest ih =>
      rw [List.map_cons, resolveArguments_literal_fst, ih]
      rfl
  rw [resolve, (standsFor_standard member).resolveAt, items]
  rfl

/-- Strict agreement with a literal is loose equality. So `repeat` asks that of every item, and
`inArray` asks for one item that `repeat` accepts by itself. -/
theorem strict_agreement_is_loose (p : Value) (order : p.Ordered) :
    (∀ a : Value, a.Ordered →
      (Structure.compare true p a = .ok () ↔ p.looselyEquals a = true)) ∧
    ∀ log : LogId, ∃ each inArray : Expander,
      (standard.resolve ⟨"repeat", [.literal p]⟩ log).1 = .ok each ∧
      (standard.resolve ⟨"inArray", [.literal p]⟩ log).1 = .ok inArray ∧
      ∀ items : List Value, Value.OrderedItems items → ∀ (memory : Memory) (journal : Journal),
        ((each.run memory (.array items) journal).accepted = true ↔
          ∀ item ∈ items, item.looselyEquals p = true) ∧
        ((inArray.run memory (.array items) journal).accepted = true ↔
          ∃ x ∈ items, ∀ (memory' : Memory) (journal' : Journal),
            (each.run memory' (.array [x]) journal').accepted = true) := by
  have distinct := Value.distinct_of_ordered p order
  refine ⟨fun a order' => ?_, fun log => ?_⟩
  · exact Structure.agrees_strictly_iff distinct (Value.distinct_of_ordered a order')
  refine ⟨.each log (.literal p) true, .test log (.inArray p),
    @resolve_literals .each (by decide) [p] log, @resolve_literals .inArray (by decide) [p] log,
    fun items order' memory journal => ?_⟩
  have agrees : ∀ item ∈ items, Structure.Agrees true p item ↔ item.looselyEquals p = true := by
    intro item member
    have proper :=
      Value.distinctItems_iff.mp (Value.distinctItems_of_ordered items order') item member
    rw [Structure.agrees_strictly_iff distinct proper, Value.looselyEquals_comm distinct proper]
  constructor
  · rw [Expander.run_each_literal_iff]
    exact forall₂_congr agrees
  · simp only [Expander.run_inArray_iff, Expander.run_each_literal_iff, List.forall_mem_singleton,
      forall_const]
    exact exists_congr fun x => and_congr_right fun member => (agrees x member).symm

/-- An integer and the float of the same size agree at a key; a key more makes the difference, and
so does a NaN. -/
theorem strict_agreement_is_loose_of_fields :
    let p : Value := .object [("a", .int 1), ("b", .array [.null])]
    let same : Value := .object [("a", .float (.ofInt 1)), ("b", .array [.null])]
    let more : Value := .object [("a", .int 1), ("b", .array [.null]), ("c", .float .nan)]
    p.Ordered ∧ same.Ordered ∧ Value.OrderedItems [same, more] ∧
      Structure.compare true p same = .ok () ∧
      ∃ each inArray : Expander,
        (standard.resolve ⟨"repeat", [.literal p]⟩ 0).1 = .ok each ∧
        (standard.resolve ⟨"inArray", [.literal p]⟩ 0).1 = .ok inArray ∧
        (each.run .fresh (.array [same, more]) .empty).accepted = false ∧
        (inArray.run .fresh (.array [same, more]) .empty).accepted = true := by
  intro p same more
  have order : p.Ordered := by
    simp only [p, Value.Ordered, Value.OrderedItems, Value.OrderedFields, Table.Ascending]
    decide
  have order' : Value.OrderedItems [same, more] := by
    simp only [same, more, Value.Ordered, Value.OrderedItems, Value.OrderedFields, Table.Ascending]
    decide
  have equal : same.looselyEquals p = true := by decide +kernel
  have unequal : more.looselyEquals p = false := by decide +kernel
  obtain ⟨strict, built⟩ := strict_agreement_is_loose p order
  obtain ⟨each, inArray, repeated, listed, runs⟩ := built 0
  have refused : ¬ ∀ item ∈ [same, more], item.looselyEquals p = true := fun all =>
    Bool.false_ne_true (unequal.symm.trans (all more (by simp)))
  have alone : ∀ item ∈ [same], item.looselyEquals p = true := List.forall_mem_singleton.mpr equal
  refine ⟨order, order'.1, order', (strict same order'.1).mpr (by decide +kernel), each, inArray,
    repeated, listed, ?_, ?_⟩
  · rw [← Bool.not_eq_true, (runs [same, more] order' .fresh .empty).1]
    exact refused
  · rw [(runs [same, more] order' .fresh .empty).2]
    refine ⟨same, List.mem_cons_self, fun memory journal => ?_⟩
    rw [(runs [same] ⟨order'.1, trivial⟩ memory journal).1]
    exact alone

end Registry
end MatchTree
