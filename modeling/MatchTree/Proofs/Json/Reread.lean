import MatchTree.Proofs.Number.Reread
import MatchTree.Proofs.Value.Document
import MatchTree.Proofs.Value.Equivalence

/-!
What becomes of a value that is written as a document and read from it.

A float that is no finite number is written as `null`, and each of the others comes back as the
double that its text is read as. Nothing else in the value changes.
-/

set_option autoImplicit false
namespace MatchTree.Value

mutual

/-- What the text of a value is read as. -/
def reread : Value → Value
  | .float (.finite x) => .float (.finite x.reread)
  | .float _ => .null
  | .array items => .array (rereadItems items)
  | .object fields => .object (rereadFields fields)
  | v => v

def rereadItems : List Value → List Value
  | [] => []
  | item :: rest => item.reread :: rereadItems rest

def rereadFields : List (String × Value) → List (String × Value)
  | [] => []
  | (key, value) :: rest => (key, value.reread) :: rereadFields rest

end

/-- Every finite float inside comes back as itself. -/
def Stable (v : Value) : Prop :=
  v.Throughout fun part => ∀ x, part = .float (.finite x) → x.reread = x

/-- Every finite float inside is written with a small coefficient and a power of ten near to one. -/
def Short (v : Value) : Prop :=
  v.Throughout fun part => ∀ x, part = .float (.finite x) → x.written.coefficient ≤ 2 ^ 53 ∧
    -22 ≤ x.written.exponent ∧ x.written.exponent ≤ 22

theorem Short.stable {v : Value} (short : v.Short) : v.Stable :=
  Throughout.mono (fun _ each x float =>
    have ⟨few, low, high⟩ := each x float
    x.reread_of_small few low high) short

theorem rereadItems_eq_iff {items : List Value} : rereadItems items = inJsonItems items ↔
    ∀ item ∈ items, item.reread = item.inJson := by
  induction items with
  | nil => simp [rereadItems, inJsonItems]
  | cons item rest ih => simp [rereadItems, inJsonItems, ih]

theorem rereadFields_eq_iff {fields : List (String × Value)} :
    rereadFields fields = inJsonFields fields ↔
      ∀ field ∈ fields, field.2.reread = field.2.inJson := by
  induction fields with
  | nil => simp [rereadFields, inJsonFields]
  | cons field rest ih => simp [rereadFields, inJsonFields, ih]

/-- A value comes back as it was written exactly if its floats do. -/
theorem reread_eq_inJson_iff (v : Value) : v.reread = v.inJson ↔ v.Stable := by
  induction v with
  | null | bool | int | string => exact iff_of_true rfl fun x other => nomatch other
  | float x => cases x <;> simp [reread, inJson, Stable, Throughout]
  | array items ih =>
    rw [reread, inJson, array.injEq, rereadItems_eq_iff, Stable, Throughout, throughoutItems_iff]
    exact forall₂_congr ih
  | object fields ih =>
    rw [reread, inJson, object.injEq, rereadFields_eq_iff, Stable, Throughout,
      throughoutFields_iff]
    exact forall₂_congr ih

theorem keys_rereadFields (fields : List (String × Value)) :
    Table.keys (rereadFields fields) = Table.keys fields := by
  induction fields with
  | nil => rfl
  | cons field rest ih => exact congrArg (field.1 :: ·) ih

mutual

theorem ordered_reread : ∀ v : Value, v.Ordered → v.reread.Ordered
  | .null, _ | .bool _, _ | .int _, _ | .string _, _ => trivial
  | .float .nan, _ | .float (.infinite _), _ | .float (.finite _), _ => trivial
  | .array items, order => orderedItems_rereadItems items order
  | .object fields, ⟨ascending, order⟩ =>
    ⟨ascending.of_keys (keys_rereadFields fields), orderedFields_rereadFields fields order⟩

theorem orderedItems_rereadItems :
    ∀ items : List Value, OrderedItems items → OrderedItems (rereadItems items)
  | [], _ => trivial
  | item :: rest, ⟨first, order⟩ =>
    ⟨ordered_reread item first, orderedItems_rereadItems rest order⟩

theorem orderedFields_rereadFields :
    ∀ fields : List (String × Value), OrderedFields fields → OrderedFields (rereadFields fields)
  | [], _ => trivial
  | (_, v) :: rest, ⟨first, order⟩ =>
    ⟨ordered_reread v first, orderedFields_rereadFields rest order⟩

end

end MatchTree.Value
