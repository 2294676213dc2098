import MatchTree.Json.Writer
import MatchTree.Proofs.Value.Order
import MatchTree.Value.Equality

/-!
Values as documents.

A document holds finite numbers only and no key twice in one object. A value is written with
`null` wherever a float is no finite number, so it comes back exactly if all its floats are.
-/

set_option autoImplicit false
namespace MatchTree
namespace Value

mutual

/-- The value that stands in a document for this one. -/
def inJson : Value → Value
  | .float (.finite x) => .float (.finite x)
  | .float _ => .null
  | .array items => .array (inJsonItems items)
  | .object fields => .object (inJsonFields fields)
  | v => v

def inJsonItems : List Value → List Value
  | [] => []
  | item :: rest => item.inJson :: inJsonItems rest

def inJsonFields : List (String × Value) → List (String × Value)
  | [] => []
  | (key, value) :: rest => (key, value.inJson) :: inJsonFields rest

end

mutual

/-- Every float inside is a finite number. -/
def isFinite : Value → Bool
  | .float x => x.finite?.isSome
  | .array items => finiteItems items
  | .object fields => finiteFields fields
  | _ => true

def finiteItems : List Value → Bool
  | [] => true
  | item :: rest => item.isFinite && finiteItems rest

def finiteFields : List (String × Value) → Bool
  | [] => true
  | (_, value) :: rest => value.isFinite && finiteFields rest

end

/-- What a document may be. -/
structure IsDocument (v : Value) : Prop where
  finite : v.isFinite = true
  distinct : v.Distinct

mutual

/-- A value equals what stands for it, unless `null` stands for a float inside. -/
theorem inJson_equals : ∀ v : Value, v.inJson.equals v = v.isFinite
  | .null | .float .nan | .float (.infinite _) => rfl
  | .bool _ | .int _ | .string _ => beq_self_eq_true _
  | .float (.finite x) => beq_self_eq_true x.units
  | .array items => inJsonItems_equal items
  | .object fields => inJsonFields_equal fields

theorem inJsonItems_equal : ∀ items : List Value,
    equalItems (inJsonItems items) items = finiteItems items
  | [] => rfl
  | item :: rest => by
    rw [inJsonItems, equalItems, finiteItems, inJson_equals item, inJsonItems_equal rest]

theorem inJsonFields_equal : ∀ fields : List (String × Value),
    equalFields (inJsonFields fields) fields = finiteFields fields
  | [] => rfl
  | (key, v) :: rest => by
    rw [inJsonFields, equalFields, finiteFields, inJson_equals v, inJsonFields_equal rest,
      beq_self_eq_true, Bool.true_and]

end

mutual

theorem inJson_of_isFinite : ∀ v : Value, v.isFinite = true → v.inJson = v
  | .null, _ | .bool _, _ | .int _, _ | .string _, _ | .float (.finite _), _ => rfl
  | .array items, finite => by rw [inJson, inJsonItems_of_finite items finite]
  | .object fields, finite => by rw [inJson, inJsonFields_of_finite fields finite]

theorem inJsonItems_of_finite :
    ∀ items : List Value, finiteItems items = true → inJsonItems items = items
  | [], _ => rfl
  | item :: rest, finite => by
    obtain ⟨first, others⟩ := Bool.and_eq_true_iff.mp finite
    rw [inJsonItems, inJson_of_isFinite item first, inJsonItems_of_finite rest others]

theorem inJsonFields_of_finite :
    ∀ fields : List (String × Value), finiteFields fields = true → inJsonFields fields = fields
  | [], _ => rfl
  | (_, v) :: rest, finite => by
    obtain ⟨first, others⟩ := Bool.and_eq_true_iff.mp finite
    rw [inJsonFields, inJson_of_isFinite v first, inJsonFields_of_finite rest others]

end

theorem keys_inJsonFields (fields : List (String × Value)) :
    Table.keys (inJsonFields fields) = Table.keys fields := by
  induction fields with
  | nil => rfl
  | cons field rest ih => exact congrArg (field.1 :: ·) ih

mutual

theorem ordered_inJson : ∀ v : Value, v.Ordered → v.inJson.Ordered
  | .null, _ | .bool _, _ | .int _, _ | .string _, _ => trivial
  | .float .nan, _ | .float (.infinite _), _ | .float (.finite _), _ => trivial
  | .array items, order => orderedItems_inJsonItems items order
  | .object fields, ⟨ascending, order⟩ =>
    ⟨ascending.of_keys (keys_inJsonFields fields), orderedFields_inJsonFields fields order⟩

theorem orderedItems_inJsonItems :
    ∀ items : List Value, OrderedItems items → OrderedItems (inJsonItems items)
  | [], _ => trivial
  | item :: rest, ⟨first, order⟩ =>
    ⟨ordered_inJson item first, orderedItems_inJsonItems rest order⟩

theorem orderedFields_inJsonFields :
    ∀ fields : List (String × Value), OrderedFields fields → OrderedFields (inJsonFields fields)
  | [], _ => trivial
  | (_, v) :: rest, ⟨first, order⟩ =>
    ⟨ordered_inJson v first, orderedFields_inJsonFields rest order⟩

end

theorem finiteItems_eq_all (items : List Value) : finiteItems items = items.all isFinite := by
  induction items with
  | nil => rfl
  | cons item rest ih => rw [finiteItems, List.all_cons, ih]

theorem finiteFields_eq_all (fields : List (String × Value)) :
    finiteFields fields = fields.all fun field => field.2.isFinite := by
  induction fields with
  | nil => rfl
  | cons field rest ih => rw [finiteFields, List.all_cons, ih]

theorem IsDocument.item {items : List Value} (proper : (array items).IsDocument) {v : Value}
    (member : v ∈ items) : v.IsDocument := by
  obtain ⟨finite, distinct⟩ := proper
  rw [isFinite, finiteItems_eq_all, List.all_eq_true] at finite
  exact ⟨finite v member, distinctItems_iff.mp distinct v member⟩

theorem IsDocument.field {fields : List (String × Value)} (proper : (object fields).IsDocument)
    {key : String} {v : Value} (member : (key, v) ∈ fields) : v.IsDocument := by
  obtain ⟨finite, _, distinct⟩ := proper
  rw [isFinite, finiteFields_eq_all, List.all_eq_true] at finite
  exact ⟨finite _ member, distinctFields_iff.mp distinct _ member⟩

mutual

theorem isFinite_tidy : ∀ v : Value, v.isFinite = true → v.tidy.isFinite = true
  | .null, _ | .bool _, _ | .int _, _ | .string _, _ => rfl
  | .float _, finite => finite
  | .array items, finite => finiteItems_tidyItems items finite
  | .object fields, finite => by
    have tidied := finiteFields_tidyFields fields finite
    rw [finiteFields_eq_all, List.all_eq_true] at tidied
    rw [tidy, isFinite, finiteFields_eq_all, List.all_eq_true]
    exact fun field member => tidied field (Table.mem_ofList member)

theorem finiteItems_tidyItems :
    ∀ items : List Value, finiteItems items = true → finiteItems (tidyItems items) = true
  | [], _ => rfl
  | item :: rest, finite => by
    obtain ⟨first, others⟩ := Bool.and_eq_true_iff.mp finite
    exact Bool.and_eq_true_iff.mpr ⟨isFinite_tidy item first, finiteItems_tidyItems rest others⟩

theorem finiteFields_tidyFields :
    ∀ fields : List (String × Value), finiteFields fields = true →
      finiteFields (tidyFields fields) = true
  | [], _ => rfl
  | (_, v) :: rest, finite => by
    obtain ⟨first, others⟩ := Bool.and_eq_true_iff.mp finite
    exact Bool.and_eq_true_iff.mpr ⟨isFinite_tidy v first, finiteFields_tidyFields rest others⟩

end
end Value

namespace Json

mutual

/-- It is the same text that is written for both. -/
theorem chars_inJson : ∀ v : Value, chars v.inJson = chars v
  | .null | .bool _ | .int _ | .string _ => rfl
  | .float .nan | .float (.infinite _) | .float (.finite _) => rfl
  | .array items => by rw [Value.inJson, chars, chars, itemChars_inJsonItems items]
  | .object fields => by rw [Value.inJson, chars, chars, fieldChars_inJsonFields fields]

theorem itemChars_inJsonItems : ∀ items : List Value,
    itemChars (Value.inJsonItems items) = itemChars items
  | [] => rfl
  | [item] => chars_inJson item
  | item :: next :: rest => by
    show chars item.inJson ++ ',' :: itemChars (Value.inJsonItems (next :: rest)) =
      chars item ++ ',' :: itemChars (next :: rest)
    rw [chars_inJson item, itemChars_inJsonItems (next :: rest)]

theorem fieldChars_inJsonFields : ∀ fields : List (String × Value),
    fieldChars (Value.inJsonFields fields) = fieldChars fields
  | [] => rfl
  | [(key, v)] => by
    rw [Value.inJsonFields, Value.inJsonFields, fieldChars, fieldChars, chars_inJson v]
  | (key, v) :: next :: rest => by
    show stringChars key ++ ':' ::
        (chars v.inJson ++ ',' :: fieldChars (Value.inJsonFields (next :: rest))) =
      stringChars key ++ ':' :: (chars v ++ ',' :: fieldChars (next :: rest))
    rw [chars_inJson v, fieldChars_inJsonFields (next :: rest)]

end
end Json
end MatchTree
