import MatchTree.Proofs.Table
import MatchTree.Value.Basic

/-!
Bringing a value into order: a value that is in order stands for itself, and where no key is
listed twice, no field is lost.
-/

set_option autoImplicit false
namespace MatchTree.Value

mutual

/-- No object inside lists a key twice. -/
def Distinct : Value → Prop
  | .array items => DistinctItems items
  | .object fields => (Table.keys fields).Nodup ∧ DistinctFields fields
  | _ => True

def DistinctItems : List Value → Prop
  | [] => True
  | item :: rest => item.Distinct ∧ DistinctItems rest

def DistinctFields : List (String × Value) → Prop
  | [] => True
  | (_, value) :: rest => value.Distinct ∧ DistinctFields rest

end

mutual

theorem tidy_of_ordered : ∀ v : Value, v.Ordered → v.tidy = v
  | .null, _ | .bool _, _ | .int _, _ | .float _, _ | .string _, _ => rfl
  | .array items, order => by rw [tidy, tidyItems_of_ordered items order]
  | .object fields, ⟨ascending, order⟩ => by
    rw [tidy, tidyFields_of_ordered fields order, Table.ofList_of_ascending ascending]

theorem tidyItems_of_ordered : ∀ items : List Value, OrderedItems items → tidyItems items = items
  | [], _ => rfl
  | item :: rest, ⟨first, order⟩ => by
    rw [tidyItems, tidy_of_ordered item first, tidyItems_of_ordered rest order]

theorem tidyFields_of_ordered :
    ∀ fields : List (String × Value), OrderedFields fields → tidyFields fields = fields
  | [], _ => rfl
  | (_, v) :: rest, ⟨first, order⟩ => by
    rw [tidyFields, tidy_of_ordered v first, tidyFields_of_ordered rest order]

end

theorem orderedItems_iff {items : List Value} :
    OrderedItems items ↔ ∀ item ∈ items, item.Ordered := by
  induction items with
  | nil => simp [OrderedItems]
  | cons item rest ih => simp [OrderedItems, ih]

theorem orderedFields_iff {fields : List (String × Value)} :
    OrderedFields fields ↔ ∀ field ∈ fields, field.2.Ordered := by
  induction fields with
  | nil => simp [OrderedFields]
  | cons field rest ih => simp [OrderedFields, ih]

theorem distinctItems_iff {items : List Value} :
    DistinctItems items ↔ ∀ item ∈ items, item.Distinct := by
  induction items with
  | nil => simp [DistinctItems]
  | cons item rest ih => simp [DistinctItems, ih]

theorem distinctFields_iff {fields : List (String × Value)} :
    DistinctFields fields ↔ ∀ field ∈ fields, field.2.Distinct := by
  induction fields with
  | nil => simp [DistinctFields]
  | cons field rest ih => simp [DistinctFields, ih]

mutual

theorem distinct_of_ordered : ∀ v : Value, v.Ordered → v.Distinct
  | .null, _ | .bool _, _ | .int _, _ | .float _, _ | .string _, _ => trivial
  | .array items, order => distinctItems_of_ordered items order
  | .object fields, ⟨ascending, order⟩ =>
    ⟨ascending.nodup_keys, distinctFields_of_ordered fields order⟩

theorem distinctItems_of_ordered :
    ∀ items : List Value, OrderedItems items → DistinctItems items
  | [], _ => trivial
  | item :: rest, ⟨first, order⟩ =>
    ⟨distinct_of_ordered item first, distinctItems_of_ordered rest order⟩

theorem distinctFields_of_ordered :
    ∀ fields : List (String × Value), OrderedFields fields → DistinctFields fields
  | [], _ => trivial
  | (_, v) :: rest, ⟨first, order⟩ =>
    ⟨distinct_of_ordered v first, distinctFields_of_ordered rest order⟩

end

mutual

theorem ordered_tidy : ∀ v : Value, v.tidy.Ordered
  | .null | .bool _ | .int _ | .float _ | .string _ => trivial
  | .array items => orderedItems_tidyItems items
  | .object fields => by
    refine ⟨Table.ascending_ofList _, orderedFields_iff.mpr fun field member => ?_⟩
    exact orderedFields_iff.mp (orderedFields_tidyFields fields) field (Table.mem_ofList member)

theorem orderedItems_tidyItems : ∀ items : List Value, OrderedItems (tidyItems items)
  | [] => trivial
  | item :: rest => ⟨ordered_tidy item, orderedItems_tidyItems rest⟩

theorem orderedFields_tidyFields :
    ∀ fields : List (String × Value), OrderedFields (tidyFields fields)
  | [] => trivial
  | (_, v) :: rest => ⟨ordered_tidy v, orderedFields_tidyFields rest⟩

end

theorem keys_tidyFields (fields : List (String × Value)) :
    Table.keys (tidyFields fields) = Table.keys fields := by
  induction fields with
  | nil => rfl
  | cons field rest ih => exact congrArg (field.1 :: ·) ih

theorem length_tidyFields (fields : List (String × Value)) :
    (tidyFields fields).length = fields.length := by
  simpa [Table.keys] using congrArg List.length (keys_tidyFields fields)

theorem get?_tidyFields (fields : List (String × Value)) (key : String) :
    Table.get? (tidyFields fields) key = (Table.get? fields key).map tidy := by
  induction fields with
  | nil => rfl
  | cons field rest ih =>
    obtain ⟨k, v⟩ := field
    rw [tidyFields, Table.get?_cons, Table.get?_cons, ih]
    by_cases same : key = k <;> simp [same]

/-- A field is found under its key after putting the fields in order. -/
theorem get?_ofList_tidyFields {fields : List (String × Value)}
    (distinct : (Table.keys fields).Nodup) (key : String) :
    (Table.ofList (tidyFields fields)).get? key = (Table.get? fields key).map tidy := by
  rw [Table.get?_ofList (by rwa [keys_tidyFields]), get?_tidyFields]

@[simp] theorem isString_tidy (v : Value) : v.tidy.isString = v.isString := by
  cases v <;> rfl

@[simp] theorem isSome_asArray_tidy (v : Value) : v.tidy.asArray.isSome = v.asArray.isSome := by
  cases v <;> rfl

end MatchTree.Value
