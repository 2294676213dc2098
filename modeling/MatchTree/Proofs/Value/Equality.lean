import Mathlib.Data.List.Perm.Subperm
import MatchTree.Proofs.Value.Induction
import MatchTree.Proofs.Value.Order
import MatchTree.Value.Equality

/-!
Loose equality does not depend on the side.

For objects this takes a count: one side is looked up in the other, and as both have the same
number of keys, no key is left over.
-/

set_option autoImplicit false
namespace MatchTree

/-- Where all keys of one table are in another, none of the other's is left over exactly if the two
have the same number. -/
theorem Table.keys_subset_iff {α β : Type} {table : Table α} {other : Table β}
    (distinct : table.keys.Nodup) (distinct' : other.keys.Nodup)
    (within : table.keys ⊆ other.keys) :
    other.keys ⊆ table.keys ↔ table.length = other.length := by
  have count : table.keys.length = table.length := List.length_map _
  have count' : other.keys.length = other.length := List.length_map _
  constructor
  · intro back
    have le := (distinct.subperm within).length_le
    have ge := (distinct'.subperm back).length_le
    omega
  · intro same
    have perm := (distinct.subperm within).perm_of_length_le (by omega)
    exact perm.symm.subset

namespace Value

theorem looselyEqualItems_iff {as bs : List Value} :
    looselyEqualItems as bs = true ↔ as.length = bs.length ∧
      ∀ (i : Nat) (a b : Value), as[i]? = some a → bs[i]? = some b → a.looselyEquals b = true := by
  induction as generalizing bs with
  | nil => cases bs <;> simp [looselyEqualItems]
  | cons a as ih =>
    cases bs with
    | nil => simp [looselyEqualItems]
    | cons b bs =>
      rw [looselyEqualItems, Bool.and_eq_true_iff, ih, List.length_cons, List.length_cons,
        Nat.add_right_cancel_iff]
      constructor
      · rintro ⟨first, count, rest⟩
        refine ⟨count, fun i x y here there => ?_⟩
        cases i with
        | zero =>
          obtain rfl := Option.some.inj here
          obtain rfl := Option.some.inj there
          exact first
        | succ i => exact rest i x y here there
      · rintro ⟨count, all⟩
        exact ⟨all 0 a b rfl rfl, count, fun i => all (i + 1)⟩

theorem looselyIncluded_iff {expected found : List (String × Value)} :
    looselyIncluded expected found = true ↔
      ∀ field ∈ expected, ∃ v, Table.get? found field.1 = some v ∧
        field.2.looselyEquals v = true := by
  induction expected with
  | nil => simp [looselyIncluded]
  | cons field rest ih =>
    obtain ⟨key, v⟩ := field
    rw [looselyIncluded, Bool.and_eq_true_iff, ih, List.forall_mem_cons]
    refine and_congr_left fun _ => ?_
    rw [Table.get?]
    cases found.lookup key <;> simp

theorem looselyEquals_object_iff {expected found : List (String × Value)} :
    (object expected).looselyEquals (object found) = true ↔
      expected.length = found.length ∧ ∀ field ∈ expected, ∃ v,
        Table.get? found field.1 = some v ∧ field.2.looselyEquals v = true := by
  rw [looselyEquals, Bool.and_eq_true_iff, beq_iff_eq, looselyIncluded_iff]

theorem looselyEquals_array_iff {as bs : List Value} :
    (array as).looselyEquals (array bs) = true ↔ as.length = bs.length ∧
      ∀ (i : Nat) (a b : Value), as[i]? = some a → bs[i]? = some b → a.looselyEquals b = true :=
  looselyEqualItems_iff

/-- Turns an equality round, by induction on its left side. -/
theorem looselyEquals_flip {a b : Value} (distinct : a.Distinct) (distinct' : b.Distinct)
    (equal : a.looselyEquals b = true) : b.looselyEquals a = true := by
  induction a generalizing b with
  | null =>
    cases b with
    | null => rfl
    | _ => contradiction
  | bool x =>
    cases b with
    | bool y => exact beq_iff_eq.mpr (beq_iff_eq.mp equal).symm
    | _ => contradiction
  | int i =>
    cases b with
    | int j => exact beq_iff_eq.mpr (beq_iff_eq.mp equal).symm
    | float y => exact equal
    | _ => contradiction
  | float x =>
    cases b with
    | float y => exact (y.equals_comm x).trans equal
    | int i => exact equal
    | _ => contradiction
  | string s =>
    cases b with
    | string t => exact beq_iff_eq.mpr (beq_iff_eq.mp equal).symm
    | _ => contradiction
  | array items ih =>
    cases b with
    | array others =>
      obtain ⟨count, equal⟩ := looselyEquals_array_iff.mp equal
      refine looselyEquals_array_iff.mpr ⟨count.symm, fun i other item there here => ?_⟩
      have member := List.mem_of_getElem? here
      exact ih item member (distinctItems_iff.mp distinct item member)
        (distinctItems_iff.mp distinct' other (List.mem_of_getElem? there))
        (equal i item other here there)
    | _ => contradiction
  | object fields ih =>
    cases b with
    | object others =>
      obtain ⟨nodup, distinct⟩ := distinct
      obtain ⟨nodup', distinct'⟩ := distinct'
      obtain ⟨count, equal⟩ := looselyEquals_object_iff.mp equal
      refine looselyEquals_object_iff.mpr ⟨count.symm, fun other member => ?_⟩
      have within : Table.keys fields ⊆ Table.keys others :=
        Table.keys_subset_of_get? fun field member => (equal field member).imp fun _ => And.left
      -- as many keys on both sides, so the key of the other field is one of these
      have back := (Table.keys_subset_iff nodup nodup' within).mpr count
      obtain ⟨field, there, same⟩ := List.mem_map.mp (back (Table.mem_keys member))
      obtain ⟨v, known, equal⟩ := equal field there
      rw [same, Table.get?_of_mem nodup' member] at known
      obtain rfl := Option.some.inj known
      refine ⟨field.2, same ▸ Table.get?_of_mem nodup there, ?_⟩
      exact ih field there (distinctFields_iff.mp distinct field there)
        (distinctFields_iff.mp distinct' other member) equal
    | _ => contradiction

theorem looselyEquals_comm {a b : Value} (distinct : a.Distinct) (distinct' : b.Distinct) :
    a.looselyEquals b = b.looselyEquals a :=
  Bool.eq_iff_iff.mpr ⟨looselyEquals_flip distinct distinct', looselyEquals_flip distinct' distinct⟩

end Value
end MatchTree
