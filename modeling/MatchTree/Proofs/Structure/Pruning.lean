import Mathlib.Logic.Relation
import MatchTree.Proofs.Structure.Agreement

/-!
What a lenient comparison leaves aside.

It is a strict comparison with the value cut down to the keys that the pattern names, wherever an
object of one faces an object of the other. So it does not see keys that are put into objects of
a value it accepts: the pattern names none of them, or it would have missed them before.
-/

set_option autoImplicit false
namespace MatchTree

namespace Value

mutual

/-- The value without the keys that the facing object of a pattern does not name. Parts face each
other under one key of two objects, and in one place of two arrays of the same length. -/
def prune : (pattern actual : Value) → Value
  | .object expected, .object found => .object (pruneFields expected found)
  | .array patterns, .array items =>
    if patterns.length = items.length then .array (pruneItems patterns items) else .array items
  | _, actual => actual

def pruneFields (expected : Fields) : List (String × Value) → List (String × Value)
  | [] => []
  | (key, v) :: rest =>
    match expected.get? key with
    | some pattern => (key, prune pattern v) :: pruneFields expected rest
    | none => pruneFields expected rest

def pruneItems : (patterns items : List Value) → List Value
  | pattern :: patterns, v :: rest => prune pattern v :: pruneItems patterns rest
  | _, items => items

end

/-- A value with one key more in one of the objects inside it, or in itself. -/
inductive Grows : Value → Value → Prop
  | key {fields : Fields} {key : String} (fresh : key ∉ fields.keys) (v : Value) :
    Grows (.object fields) (.object (fields.insert key v))
  | inField {fields : Fields} {key : String} {v w : Value} (here : fields.get? key = some v)
    (inner : Grows v w) : Grows (.object fields) (.object (fields.insert key w))
  | inItem {items : List Value} {i : Nat} {v w : Value} (here : items[i]? = some v)
    (inner : Grows v w) : Grows (.array items) (.array (items.set i w))

/-! ## Pruned values -/

theorem prune_whole {pattern actual : Value} (whole : Structure.byParts pattern actual = false) :
    prune pattern actual = actual := by
  cases pattern <;> cases actual <;> first | contradiction | exact prune.eq_def _ _

theorem getElem?_pruneItems (patterns items : List Value) (i : Nat) :
    (pruneItems patterns items)[i]? =
      items[i]?.map fun v => (patterns[i]?.map fun p => prune p v).getD v := by
  induction patterns generalizing items i with
  | nil => cases items <;> simp [pruneItems]
  | cons pattern patterns ih =>
    cases items with
    | nil => simp [pruneItems]
    | cons v rest =>
      rw [pruneItems]
      cases i with
      | zero => rfl
      | succ i => exact ih rest i

theorem length_pruneItems (patterns items : List Value) :
    (pruneItems patterns items).length = items.length := by
  induction patterns generalizing items with
  | nil => cases items <;> rfl
  | cons pattern patterns ih =>
    cases items with
    | nil => rfl
    | cons v rest => rw [pruneItems, List.length_cons, List.length_cons, ih]

section
variable (expected found : Fields)

/-- The keys that are left are those that the pattern names. -/
theorem keys_pruneFields :
    Table.keys (pruneFields expected found) = (Table.keys found).filter expected.contains := by
  induction found with
  | nil => rfl
  | cons field rest ih =>
    obtain ⟨key, v⟩ := field
    have split : Table.keys ((key, v) :: rest) = key :: Table.keys rest := rfl
    rw [pruneFields, split, List.filter_cons, Table.contains, ← ih]
    cases expected.get? key <;> rfl

theorem nodup_keys_pruneFields (nodup : (Table.keys found).Nodup) :
    (Table.keys (pruneFields expected found)).Nodup := by
  rw [keys_pruneFields]
  exact nodup.filter _

theorem keys_pruneFields_subset :
    Table.keys (pruneFields expected found) ⊆ Table.keys expected := by
  intro key member
  rw [keys_pruneFields] at member
  exact Table.contains_iff.mp (List.mem_filter.mp member).2

theorem get?_pruneFields (key : String) :
    Table.get? (pruneFields expected found) key =
      (expected.get? key).bind fun pattern => (found.get? key).map (prune pattern) := by
  induction found with
  | nil => cases expected.get? key <;> rfl
  | cons field rest ih =>
    obtain ⟨k, v⟩ := field
    rw [pruneFields, Table.get?_cons]
    by_cases same : key = k
    · subst same
      cases named : expected.get? key with
      | none => simpa [named] using ih
      | some pattern => simp [Table.get?_cons]
    · cases expected.get? k with
      | none => simpa [same] using ih
      | some pattern => simpa [Table.get?_cons, same] using ih

end

theorem distinct_prune {pattern actual : Value} (distinct : actual.Distinct) :
    (prune pattern actual).Distinct := by
  induction actual generalizing pattern with
  | array items ih =>
    cases pattern with
    | array patterns =>
      rw [prune]
      split
      · refine distinctItems_iff.mpr fun item member => ?_
        obtain ⟨i, here⟩ := List.getElem?_of_mem member
        rw [getElem?_pruneItems] at here
        obtain ⟨v, there, rfl⟩ := Option.map_eq_some_iff.mp here
        have member := List.mem_of_getElem? there
        have proper := distinctItems_iff.mp distinct v member
        cases patterns[i]? with
        | none => exact proper
        | some p => exact ih v member proper
      · exact distinct
    | _ => exact distinct
  | object fields ih =>
    cases pattern with
    | object expected =>
      obtain ⟨nodup, distinct⟩ := distinct
      have kept := nodup_keys_pruneFields expected fields nodup
      refine ⟨kept, distinctFields_iff.mpr fun field member => ?_⟩
      have here := Table.get?_of_mem kept member
      rw [get?_pruneFields] at here
      obtain ⟨p, _, here⟩ := Option.bind_eq_some_iff.mp here
      obtain ⟨v, there, same⟩ := Option.map_eq_some_iff.mp here
      have member := Table.mem_of_get? there
      exact same ▸ ih _ member (distinctFields_iff.mp distinct _ member)
    | _ => exact ⟨distinct.1, distinct.2⟩
  | _ => cases pattern <;> trivial

end Value

namespace Structure
open Value (prune pruneFields pruneItems Grows)

theorem agrees_whole_pruned_iff {pattern actual : Value} (whole : byParts pattern actual = false) :
    Agrees false pattern actual ↔ pattern.looselyEquals (prune pattern actual) = true := by
  rw [Value.prune_whole whole]
  exact agrees_whole_iff whole

/-- If parts that face each other agree as their pruned forms do, so do two arrays. -/
theorem agrees_pruned_array_iff {patterns items : List Value}
    (parts : ∀ (i : Nat) (p v : Value), patterns[i]? = some p → items[i]? = some v →
      (Agrees false p v ↔ p.looselyEquals (prune p v) = true)) :
    Agrees false (.array patterns) (.array items) ↔
      (Value.array patterns).looselyEquals (prune (.array patterns) (.array items)) = true := by
  rw [agrees_array_iff, prune]
  split
  · rw [Value.looselyEquals_array_iff, Value.length_pruneItems]
    refine and_congr_right fun _ => ?_
    -- each place of the pruned array holds what the array has there, pruned
    constructor
    · intro agrees i p w here pruned
      rw [Value.getElem?_pruneItems] at pruned
      obtain ⟨v, there, rfl⟩ := Option.map_eq_some_iff.mp pruned
      simpa [here] using (parts i p v here there).mp (agrees i p v here there)
    · intro equal i p v here there
      refine (parts i p v here there).mpr (equal i p _ here ?_)
      simp [Value.getElem?_pruneItems, here, there]
  · rename_i ne
    simp [Value.looselyEquals_array_iff, ne]

theorem agrees_pruned_object_iff {expected found : Fields} (nodup : (Table.keys expected).Nodup)
    (nodup' : (Table.keys found).Nodup)
    (parts : ∀ field ∈ expected, ∀ v, found.get? field.1 = some v →
      (Agrees false field.2 v ↔ field.2.looselyEquals (prune field.2 v) = true)) :
    Agrees false (.object expected) (.object found) ↔
      (Value.object expected).looselyEquals (prune (.object expected) (.object found)) = true := by
  -- a key that the pattern names is kept, so it is found before and after
  have fields : (∀ field ∈ expected, ∃ v,
      Table.get? found field.1 = some v ∧ Agrees false field.2 v) ↔
      ∀ field ∈ expected, ∃ v, Table.get? (pruneFields expected found) field.1 = some v ∧
        field.2.looselyEquals v = true := by
    refine forall₂_congr fun field member => ?_
    rw [Value.get?_pruneFields, Table.get?_of_mem nodup member, Option.bind_some]
    cases known : Table.get? found field.1 with
    | none => simp
    | some v => simpa using parts field member v known
  rw [agrees_object_iff, prune, Value.looselyEquals_object_iff, fields, and_comm]
  refine and_congr_left fun equal => ?_
  -- no key is left that the pattern does not name, so the counts agree if all of its are there
  rw [← Table.keys_subset_iff nodup (Value.nodup_keys_pruneFields expected found nodup')
    (Table.keys_subset_of_get? fun field member => (equal field member).imp fun _ => And.left)]
  simp [Value.keys_pruneFields_subset]

/-- The lenient comparison asks of the facing parts what loose equality asks of them after the
other keys are gone. -/
theorem agrees_leniently_iff {pattern actual : Value} (distinct : pattern.Distinct)
    (distinct' : actual.Distinct) :
    Agrees false pattern actual ↔ pattern.looselyEquals (prune pattern actual) = true := by
  induction pattern generalizing actual with
  | array patterns ih =>
    cases actual with
    | array items =>
      refine agrees_pruned_array_iff fun i p v here there => ?_
      exact ih p (List.mem_of_getElem? here)
        (Value.distinctItems_iff.mp distinct p (List.mem_of_getElem? here))
        (Value.distinctItems_iff.mp distinct' v (List.mem_of_getElem? there))
    | _ => exact agrees_whole_pruned_iff rfl
  | object expected ih =>
    cases actual with
    | object found =>
      obtain ⟨nodup, distinct⟩ := distinct
      obtain ⟨nodup', distinct'⟩ := distinct'
      refine agrees_pruned_object_iff nodup nodup' fun field member v known => ?_
      exact ih field member (Value.distinctFields_iff.mp distinct field member)
        (Value.distinctFields_iff.mp distinct' _ (Table.mem_of_get? known))
    | _ => exact agrees_whole_pruned_iff rfl
  | _ => exact agrees_whole_pruned_iff (by cases actual <;> rfl)

/-- Strictness makes no difference to what is compared as a whole. -/
theorem Agrees.of_whole {strict strict' : Bool} {pattern actual : Value}
    (agrees : Agrees strict pattern actual) (whole : byParts pattern actual = false) :
    Agrees strict' pattern actual :=
  (agrees_whole_iff whole).mpr ((agrees_whole_iff whole).mp agrees)

/-- A strict comparison asks for everything that a lenient one does. -/
theorem Agrees.lenient {pattern actual : Value} (agrees : Agrees true pattern actual) :
    Agrees false pattern actual := by
  induction pattern generalizing actual with
  | array patterns ih =>
    cases actual with
    | array items =>
      obtain ⟨count, all⟩ := agrees_array_iff.mp agrees
      refine agrees_array_iff.mpr ⟨count, fun i p v here there => ?_⟩
      exact ih p (List.mem_of_getElem? here) (all i p v here there)
    | _ => exact agrees.of_whole rfl
  | object expected ih =>
    cases actual with
    | object found =>
      refine agrees_object_iff.mpr ⟨fun field member => ?_, fun strict => nomatch strict⟩
      obtain ⟨v, known, agrees⟩ := (agrees_object_iff.mp agrees).1 field member
      exact ⟨v, known, ih field member agrees⟩
    | _ => exact agrees.of_whole rfl
  | _ => exact agrees.of_whole (by cases actual <;> rfl)

/-- One key more does no harm: if the pattern named it, it would have been missed. -/
theorem Agrees.grows {pattern actual grown : Value} (agrees : Agrees false pattern actual)
    (grows : Grows actual grown) : Agrees false pattern grown := by
  induction grows generalizing pattern with
  | @key fields key fresh v =>
    cases pattern with
    | object expected =>
      obtain ⟨all, _⟩ := agrees_object_iff.mp agrees
      refine agrees_object_iff.mpr ⟨fun field member => ?_, fun strict => nomatch strict⟩
      obtain ⟨w, known, agrees⟩ := all field member
      -- the pattern finds all its keys, so the fresh one is none of them
      have there := Table.mem_keys (Table.mem_of_get? known)
      have ne : field.1 ≠ key := fun same => fresh (same ▸ there)
      exact ⟨w, (Table.get?_insert_of_ne v fields ne).trans known, agrees⟩
    | _ => exact Bool.noConfusion ((agrees_whole_iff rfl).mp agrees)
  | @inField fields key v w here inner ih =>
    cases pattern with
    | object expected =>
      obtain ⟨all, _⟩ := agrees_object_iff.mp agrees
      refine agrees_object_iff.mpr ⟨fun field member => ?_, fun strict => nomatch strict⟩
      obtain ⟨u, known, agrees⟩ := all field member
      rw [Table.get?_insert]
      split
      · -- what stood under this key agreed, and it has grown
        rename_i same
        rw [same, here] at known
        obtain rfl := Option.some.inj known
        exact ⟨w, rfl, ih agrees⟩
      · exact ⟨u, known, agrees⟩
    | _ => exact Bool.noConfusion ((agrees_whole_iff rfl).mp agrees)
  | @inItem items i v w here inner ih =>
    cases pattern with
    | array patterns =>
      obtain ⟨count, all⟩ := agrees_array_iff.mp agrees
      refine agrees_array_iff.mpr ⟨by rwa [List.length_set], fun j p u wanted known => ?_⟩
      by_cases same : i = j
      · subst same
        have inside : i < items.length := (List.getElem?_eq_some_iff.mp here).1
        rw [List.getElem?_set_self inside] at known
        obtain rfl := Option.some.inj known
        exact ih (all i p v wanted here)
      · rw [List.getElem?_set_ne same] at known
        exact all j p u wanted known
    | _ => exact Bool.noConfusion ((agrees_whole_iff rfl).mp agrees)

/-- However many keys are put in. -/
theorem Agrees.grown {pattern actual grown : Value} (agrees : Agrees false pattern actual)
    (growth : Relation.ReflTransGen Grows actual grown) : Agrees false pattern grown := by
  induction growth with
  | refl => exact agrees
  | tail _ grows ih => exact ih.grows grows

end Structure

namespace Expander

theorem run_structural_literal_iff {log : LogId} {pattern v : Value} {memory : Memory}
    {journal : Journal} :
    ((structural log (.literal pattern)).run memory v journal).accepted = true ↔
      Structure.Agrees false pattern v := by
  have records : (structural log (.literal pattern)).Records log := ⟨trivial, rfl⟩
  rw [(records.shows memory v journal).accepted]
  refine accepted_reported_iff.trans ?_
  rw [visitPattern, Structure.Agrees]
  cases Structure.compare false pattern v <;> simp [Except.mapError]

end Expander

namespace Registry

/-- A lenient comparison is a strict one with what is left of the value after pruning. So whatever
is accepted strictly is accepted leniently, and `match` still accepts a value that has grown. -/
theorem lenient_agreement_prunes (p : Value) (order : p.Ordered) :
    (∀ a : Value, a.Ordered →
      (Structure.compare false p a = .ok () ↔ p.looselyEquals (p.prune a) = true) ∧
        (Structure.compare false p a = .ok () ↔ Structure.compare true p (p.prune a) = .ok ()) ∧
        (Structure.compare true p a = .ok () → Structure.compare false p a = .ok ())) ∧
    ∀ log : LogId, ∃ e : Expander, (standard.resolve ⟨"match", [.literal p]⟩ log).1 = .ok e ∧
      ∀ a grown : Value, Relation.ReflTransGen Value.Grows a grown →
        ∀ (memory memory' : Memory) (journal journal' : Journal),
          (e.run memory a journal).accepted = true →
            (e.run memory' grown journal').accepted = true := by
  have distinct := Value.distinct_of_ordered p order
  constructor
  · intro a order'
    have distinct' := Value.distinct_of_ordered a order'
    have pruned := Structure.agrees_leniently_iff distinct distinct'
    refine ⟨pruned, ?_, Structure.Agrees.lenient⟩
    exact pruned.trans (Structure.agrees_strictly_iff distinct (Value.distinct_prune distinct')).symm
  · intro log
    have built := @resolve_literals .structural (by decide) [p] log
    refine ⟨.structural log (.literal p), built, fun a grown growth _ _ _ _ accepted => ?_⟩
    rw [Expander.run_structural_literal_iff] at accepted ⊢
    exact accepted.grown growth

/-- The object inside the array has a key that the pattern does not name, and gets another; the
strict comparison refuses both. -/
theorem lenient_agreement_prunes_of_inner_key :
    let p : Value := .object [("a", .array [.object [("x", .int 1)]])]
    let inner : Fields := [("x", .float (.ofInt 1)), ("y", .null)]
    let a : Value := .object [("a", .array [.object inner])]
    let grown : Value := .object [("a", .array [.object (inner.insert "k" (.string "new"))])]
    p.Ordered ∧ a.Ordered ∧ Value.Grows a grown ∧ Structure.compare true p a ≠ .ok () ∧
      Structure.compare false p a = .ok () ∧
      ∃ e : Expander, (standard.resolve ⟨"match", [.literal p]⟩ 0).1 = .ok e ∧
        (e.run .fresh a .empty).accepted = true ∧ (e.run .fresh grown .empty).accepted = true := by
  intro p inner a grown
  have order : p.Ordered := by
    simp only [p, Value.Ordered, Value.OrderedItems, Value.OrderedFields, Table.Ascending]
    decide
  have order' : a.Ordered := by
    simp only [a, inner, Value.Ordered, Value.OrderedItems, Value.OrderedFields, Table.Ascending]
    decide
  have grows : Value.Grows a grown :=
    @Value.Grows.inField [("a", .array [.object inner])] "a" _ _ rfl
      (@Value.Grows.inItem [.object inner] 0 _ _ rfl (@Value.Grows.key inner "k" (by decide) _))
  have unequal : p.looselyEquals a = false := by decide +kernel
  have equal : p.looselyEquals (p.prune a) = true := by decide +kernel
  obtain ⟨compared, built⟩ := lenient_agreement_prunes p order
  have agrees := (compared a order').1.mpr equal
  obtain ⟨e, resolved, accepts⟩ := built 0
  have accepted : (e.run .fresh a .empty).accepted = true := by
    obtain rfl : Expander.structural 0 (.literal p) = e := Except.ok.inj resolved
    exact Expander.run_structural_literal_iff.mpr agrees
  refine ⟨order, order', grows, fun strict => ?_, agrees, e, resolved, accepted, ?_⟩
  · have agreed := (Structure.agrees_strictly_iff (Value.distinct_of_ordered p order)
      (Value.distinct_of_ordered a order')).mp strict
    exact Bool.false_ne_true (unequal.symm.trans agreed)
  · exact accepts a grown (.single grows) _ _ _ _ accepted

end Registry
end MatchTree
