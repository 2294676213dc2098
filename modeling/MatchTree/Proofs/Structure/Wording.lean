import MatchTree.Proofs.Structure.Difference
import MatchTree.Proofs.Value.Text

/-!
What is told of two values that differ tells them apart.

A failed comparison either leads one turn further into both values, or stops. Where it stops because
the two are not equal it shows both, and as they are not equal, it shows two texts.
-/

set_option autoImplicit false
namespace MatchTree

namespace Mismatch

/-- The turns that are told first. -/
def way : Mismatch → List Turn
  | atKey key inner => .key key :: inner.way
  | atIndex index inner => .index index :: inner.way
  | _ => []

/-- What is told at the end of the way. -/
def leaf : Mismatch → Mismatch
  | atKey _ inner | atIndex _ inner => inner.leaf
  | mismatch => mismatch

end Mismatch

/-- A mismatch that lies behind a turn. -/
def Turn.before : Turn → Mismatch → Mismatch
  | key k, inner => .atKey k inner
  | index i, inner => .atIndex i inner

namespace Turn
variable (turn : Turn) (inner : Mismatch)

theorem way_before : (turn.before inner).way = turn :: inner.way := by
  cases turn <;> rfl

theorem leaf_before : (turn.before inner).leaf = inner.leaf := by
  cases turn <;> rfl

end Turn

theorem Mismatch.message_eq (mismatch : Mismatch) :
    mismatch.message = String.join (mismatch.way.map Turn.text) ++ mismatch.leaf.message := by
  induction mismatch with
  | atKey key inner ih =>
    rw [Structure.message_atKey, ih, way, List.map_cons, String.join_cons, String.append_assoc]
    rfl
  | atIndex index inner ih =>
    rw [Structure.message_atIndex, ih, way, List.map_cons, String.join_cons, String.append_assoc]
    rfl
  | _ => exact String.empty_append.symm

namespace Value

theorem Ordered.part? {v part : Value} {turn : Turn} (order : v.Ordered)
    (found : v.part? turn = some part) : part.Ordered := by
  cases v with
  | array items =>
    cases turn with
    | index i => exact orderedItems_iff.mp order part (List.mem_of_getElem? found)
    | key key => contradiction
  | object fields =>
    cases turn with
    | key key => exact orderedFields_iff.mp order.2 (key, part) (Table.mem_of_get? found)
    | index i => contradiction
  | _ => contradiction

theorem Ordered.partAt? {v part : Value} {way : List Turn} (order : v.Ordered)
    (found : v.partAt? way = some part) : part.Ordered := by
  induction way generalizing v with
  | nil => exact Option.some.inj found ▸ order
  | cons turn rest ih =>
    obtain ⟨inner, here, found⟩ := Option.bind_eq_some_iff.mp found
    exact ih (order.part? here) found

end Value

namespace Structure
variable {strict : Bool} {pattern actual : Value} {mismatch : Mismatch}

/-- How a comparison fails: in a part of each value, or here. -/
inductive Fails (strict : Bool) (pattern actual : Value) : Mismatch → Prop
  | inside (turn : Turn) {p a : Value} {inner : Mismatch} (here : pattern.part? turn = some p)
    (there : actual.part? turn = some a) (within : compare strict p a = .error inner) :
    Fails strict pattern actual (turn.before inner)
  | differs (unequal : pattern.looselyEquals actual = false) :
    Fails strict pattern actual (.differs actual pattern)
  | missingKey (key : String) : Fails strict pattern actual (.missingKey key actual)
  | extraKey (key : String) : Fails strict pattern actual (.extraKey key actual)
  | wrongLength (count expected : Nat) :
    Fails strict pattern actual (.wrongLength actual count expected)

theorem fails_whole (whole : byParts pattern actual = false)
    (failed : compare strict pattern actual = .error mismatch) :
    Fails strict pattern actual mismatch := by
  rw [compare_whole whole] at failed
  split at failed
  case isTrue => contradiction
  case isFalse unequal =>
    obtain rfl := Except.error.inj failed
    exact .differs (Bool.not_eq_true _ ▸ unequal)

theorem fails_array {patterns items : List Value}
    (failed : compare strict (.array patterns) (.array items) = .error mismatch) :
    Fails strict (.array patterns) (.array items) mismatch := by
  rw [compare] at failed
  split at failed
  case isTrue =>
    obtain ⟨i, p, a, inner, here, there, wrong, rfl, _⟩ := compareItems_error failed
    rw [Nat.zero_add]
    exact .inside (.index i) here there wrong
  case isFalse =>
    obtain rfl := Except.error.inj failed
    exact .wrongLength _ _

theorem fails_object {expected found : List (String × Value)} (order : Table.Ascending expected)
    (failed : compare strict (.object expected) (.object found) = .error mismatch) :
    Fails strict (.object expected) (.object found) mismatch := by
  rw [compare_object] at failed
  cases fields : compareFields strict found (.object found) expected with
  | error first =>
    rw [fields] at failed
    obtain rfl := Except.error.inj failed
    obtain ⟨⟨key, p⟩, member, _, ⟨_, rfl⟩ | ⟨a, inner, there, wrong, rfl⟩⟩ :=
      compareFields_error order fields
    · exact .missingKey key
    · exact .inside (.key key) (Table.get?_of_mem order.nodup_keys member) there wrong
  | ok u =>
    simp only [fields, bind, Except.bind] at failed
    split at failed
    case h_1 =>
      obtain rfl := Except.error.inj failed
      exact .extraKey _
    case h_2 => contradiction

theorem fails_of_error (order : pattern.Ordered)
    (failed : compare strict pattern actual = .error mismatch) :
    Fails strict pattern actual mismatch := by
  cases parts : byParts pattern actual with
  | false => exact fails_whole parts failed
  | true =>
    cases pattern <;> cases actual <;> first
      | contradiction
      | exact fails_array failed
      | exact fails_object order.1 failed

/-- The values that a failed comparison shows as different lie at the end of its way, and are not
equal. -/
theorem leaf_of_error {a p : Value} (order : pattern.Ordered)
    (failed : compare strict pattern actual = .error mismatch)
    (leaf : mismatch.leaf = .differs a p) :
    pattern.partAt? mismatch.way = some p ∧ actual.partAt? mismatch.way = some a ∧
      p.looselyEquals a = false := by
  -- by induction on the way, each turn of which leads into a part of both values
  generalize told : mismatch.way = way
  induction way generalizing pattern actual mismatch with
  | nil =>
    cases fails_of_error order failed with
    | @inside turn _ _ inner =>
      rw [turn.way_before] at told
      contradiction
    | differs unequal =>
      obtain ⟨rfl, rfl⟩ := Mismatch.differs.inj leaf
      exact ⟨rfl, rfl, unequal⟩
    | _ => contradiction
  | cons turn rest ih =>
    cases fails_of_error order failed with
    | @inside turn' q b inner here there within =>
      obtain ⟨rfl, after⟩ := List.cons.inj ((turn'.way_before inner).symm.trans told)
      obtain ⟨found, found', unequal⟩ :=
        ih (order.part? here) within ((turn'.leaf_before inner).symm.trans leaf) after
      exact ⟨Option.bind_eq_some_iff.mpr ⟨q, here, found⟩,
        Option.bind_eq_some_iff.mpr ⟨b, there, found'⟩, unequal⟩
    | _ => contradiction

/-- Values without a NaN have one text only if they are loosely equal. So of two values that a
failed comparison shows as different, parts of what is compared, it shows two texts. -/
theorem texts_tell_apart :
    (∀ a b : Value, a.Ordered → b.Ordered → a.NanFree → b.NanFree → a.text = b.text →
      a.looselyEquals b = true) ∧
    ∀ (strict : Bool) (pattern actual : Value) (mismatch : Mismatch) (a p : Value),
      pattern.Ordered → actual.Ordered → compare strict pattern actual = .error mismatch →
      mismatch.leaf = .differs a p →
        pattern.partAt? mismatch.way = some p ∧ actual.partAt? mismatch.way = some a ∧
        mismatch.message = String.join (mismatch.way.map Turn.text) ++
          s!"value {a.text} does not match {p.text}" ∧
        (a.NanFree → p.NanFree → a.text ≠ p.text) := by
  constructor
  · intro a b _ order free free' same
    exact Value.looselyEquals_of_text (Value.distinct_of_ordered b order) free free' same
  · intro strict pattern actual mismatch a p order order' failed leaf
    obtain ⟨here, there, unequal⟩ := leaf_of_error order failed leaf
    refine ⟨here, there, ?_, fun free free' same => ?_⟩
    · rw [mismatch.message_eq, leaf]
      rfl
    · have distinct := Value.distinct_of_ordered a (order'.partAt? there)
      have equal := Value.looselyEquals_of_text distinct free' free same.symm
      exact Bool.noConfusion (unequal.symm.trans equal)

/-- A number is shown alike as an integer and as a float, and a digit in quotes is not a number. -/
theorem texts_tell_apart_of_digit :
    let digit : Value := .float (.ofInt 1)
    let pattern : Value := .object [("a", .array [.int 1, .string "1"])]
    let actual : Value := .object [("a", .array [digit, digit])]
    let mismatch : Mismatch := .atKey "a" (.atIndex 1 (.differs digit (.string "1")))
    ((Value.int 1).text = digit.text ∧ (Value.int 1).looselyEquals digit = true) ∧
      pattern.Ordered ∧ actual.Ordered ∧ compare true pattern actual = .error mismatch ∧
      digit.text ≠ (Value.string "1").text := by
  intro digit pattern actual mismatch
  have order : pattern.Ordered := by
    simp only [pattern, Value.Ordered, Value.OrderedItems, Value.OrderedFields, Table.Ascending]
    decide
  have order' : actual.Ordered := by
    simp only [actual, digit, Value.Ordered, Value.OrderedItems, Value.OrderedFields,
      Table.Ascending]
    decide
  have free : digit.NanFree := fun nan => absurd (Value.float.inj nan) (by decide +kernel)
  have free' : (Value.int 1).NanFree ∧ (Value.string "1").NanFree := by
    simp [Value.NanFree, Value.Throughout]
  have shown : (Value.int 1).text = digit.text := by decide +kernel
  have same := texts_tell_apart.1 (.int 1) digit trivial trivial free'.1 free shown
  have failed : compare true pattern actual = .error mismatch := by
    have other : (Value.string "1").looselyEquals digit = false := rfl
    simp [pattern, actual, mismatch, compare, compareFields, compareItems, Table.get?_cons,
      same, other, digit, Except.mapError, bind, Except.bind, pure, Except.pure, throw, throwThe,
      MonadExceptOf.throw]
  obtain ⟨_, _, _, apart⟩ :=
    texts_tell_apart.2 true pattern actual mismatch _ _ order order' failed rfl
  exact ⟨⟨shown, same⟩, order, order', failed, apart free free'.2⟩

end Structure
end MatchTree
