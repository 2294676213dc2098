import Mathlib.Order.Defs.Unbundled
import MatchTree.Proofs.Number.Integral
import MatchTree.Proofs.Value.Equality

/-!
The laws of loose equality.

It does not depend on the side, it follows from strict equality, and nothing but a NaN inside
keeps a value from being equal to itself. Chains of equal values have equal ends as long as no
integer is rounded on the way, which is sure up to `2 ^ 53`.
-/

set_option autoImplicit false
namespace MatchTree.Value

mutual

/-- All that lies inside the arrays and objects of a value, or the value itself if it is neither,
has a property. -/
def Throughout (holds : Value → Prop) : Value → Prop
  | .array items => ThroughoutItems holds items
  | .object fields => ThroughoutFields holds fields
  | v => holds v

def ThroughoutItems (holds : Value → Prop) : List Value → Prop
  | [] => True
  | item :: rest => item.Throughout holds ∧ ThroughoutItems holds rest

def ThroughoutFields (holds : Value → Prop) : List (String × Value) → Prop
  | [] => True
  | (_, v) :: rest => v.Throughout holds ∧ ThroughoutFields holds rest

end

/-- No float inside is a NaN. -/
def NanFree (v : Value) : Prop := v.Throughout (· ≠ .float .nan)

/-- What is not rounded when it is made a double. -/
def IsExact (v : Value) : Prop := v ≠ .float .nan ∧ ∀ i, v = .int i → i.toInt.natAbs ≤ 2 ^ 53

/-- No float inside is a NaN, and no integer inside is too large to be a double. -/
def Exact (v : Value) : Prop := v.Throughout IsExact

section
variable {holds : Value → Prop}

theorem throughoutItems_iff {items : List Value} :
    ThroughoutItems holds items ↔ ∀ item ∈ items, item.Throughout holds := by
  induction items with
  | nil => simp [ThroughoutItems]
  | cons item rest ih => simp [ThroughoutItems, ih]

theorem throughoutFields_iff {fields : List (String × Value)} :
    ThroughoutFields holds fields ↔ ∀ field ∈ fields, field.2.Throughout holds := by
  induction fields with
  | nil => simp [ThroughoutFields]
  | cons field rest ih => simp [ThroughoutFields, ih]

theorem Throughout.mono {holds' : Value → Prop} (weaker : ∀ v, holds v → holds' v) {v : Value}
    (all : v.Throughout holds) : v.Throughout holds' := by
  induction v with
  | array items ih =>
    refine throughoutItems_iff.mpr fun item member => ?_
    exact ih item member (throughoutItems_iff.mp all item member)
  | object fields ih =>
    refine throughoutFields_iff.mpr fun field member => ?_
    exact ih field member (throughoutFields_iff.mp all field member)
  | _ => exact weaker _ all

end

theorem Exact.nanFree {v : Value} (exact : v.Exact) : v.NanFree :=
  Throughout.mono (fun _ => And.left) exact

/-! ## Equal to itself -/

theorem looselyEquals_self_iff {v : Value} (distinct : v.Distinct) :
    v.looselyEquals v = true ↔ v.NanFree := by
  induction v with
  | null => simp [looselyEquals, NanFree, Throughout]
  | bool b => simp [looselyEquals, NanFree, Throughout]
  | int i => simp [looselyEquals, NanFree, Throughout]
  | string s => simp [looselyEquals, NanFree, Throughout]
  | float x => simp [looselyEquals, NanFree, Throughout, Double.equals_self_iff]
  | array items ih =>
    rw [looselyEquals_array_iff, NanFree, Throughout, throughoutItems_iff]
    have inside (item : Value) (member : item ∈ items) :=
      ih item member (distinctItems_iff.mp distinct item member)
    constructor
    · rintro ⟨_, equal⟩ item member
      obtain ⟨i, here⟩ := List.getElem?_of_mem member
      exact (inside item member).mp (equal i item item here here)
    · refine fun free => ⟨rfl, fun i a b here there => ?_⟩
      obtain rfl := Option.some.inj (here.symm.trans there)
      have member := List.mem_of_getElem? here
      exact (inside a member).mpr (free a member)
  | object fields ih =>
    obtain ⟨nodup, distinct⟩ := distinct
    rw [looselyEquals_object_iff, NanFree, Throughout, throughoutFields_iff,
      and_iff_right rfl]
    refine forall₂_congr fun field member => ?_
    simp only [Table.get?_of_mem nodup member, Option.some.injEq, exists_eq_left']
    exact ih field member (distinctFields_iff.mp distinct field member)

/-! ## From strict equality -/

theorem equalItems_inside {as bs : List Value} (equal : equalItems as bs = true) :
    as.length = bs.length ∧
      ∀ (i : Nat) (a b : Value), as[i]? = some a → bs[i]? = some b → a.equals b = true := by
  induction as generalizing bs with
  | nil => cases bs <;> simp_all [equalItems]
  | cons a as ih =>
    cases bs with
    | nil => contradiction
    | cons b bs =>
      obtain ⟨first, others⟩ := Bool.and_eq_true_iff.mp equal
      obtain ⟨count, later⟩ := ih others
      refine ⟨congrArg Nat.succ count, fun i x y here there => ?_⟩
      cases i with
      | zero =>
        obtain rfl := Option.some.inj here
        obtain rfl := Option.some.inj there
        exact first
      | succ i => exact later i x y here there

theorem equalFields_inside {as bs : List (String × Value)} (equal : equalFields as bs = true) :
    as.length = bs.length ∧
      ∀ field ∈ as, ∃ v, (field.1, v) ∈ bs ∧ field.2.equals v = true := by
  induction as generalizing bs with
  | nil => cases bs <;> simp_all [equalFields]
  | cons field as ih =>
    cases bs with
    | nil => contradiction
    | cons other bs =>
      obtain ⟨here, others⟩ := Bool.and_eq_true_iff.mp equal
      obtain ⟨key, first⟩ := Bool.and_eq_true_iff.mp here
      obtain ⟨count, later⟩ := ih others
      refine ⟨congrArg Nat.succ count, List.forall_mem_cons.mpr ⟨⟨other.2, ?_, first⟩, ?_⟩⟩
      · rw [eq_of_beq key]
        exact List.mem_cons_self
      · exact fun field member => (later field member).imp fun v found =>
          ⟨List.mem_cons_of_mem _ found.1, found.2⟩

theorem looselyEquals_of_equals {a b : Value} (distinct : b.Distinct)
    (equal : a.equals b = true) : a.looselyEquals b = true := by
  induction a generalizing b with
  | array items ih =>
    cases b with
    | array others =>
      obtain ⟨count, inside⟩ := equalItems_inside equal
      refine looselyEquals_array_iff.mpr ⟨count, fun i x y here there => ?_⟩
      exact ih x (List.mem_of_getElem? here)
        (distinctItems_iff.mp distinct y (List.mem_of_getElem? there)) (inside i x y here there)
    | _ => contradiction
  | object fields ih =>
    cases b with
    | object others =>
      obtain ⟨nodup, distinct⟩ := distinct
      obtain ⟨count, inside⟩ := equalFields_inside equal
      refine looselyEquals_object_iff.mpr ⟨count, fun field member => ?_⟩
      obtain ⟨v, there, same⟩ := inside field member
      exact ⟨v, Table.get?_of_mem nodup there,
        ih field member (distinctFields_iff.mp distinct _ there) same⟩
    | _ => contradiction
  | _ =>
    -- integers and floats are not strictly equal, and otherwise nothing is loose here
    cases b <;> first | exact equal | contradiction

/-! ## Chains -/

/-- The double that stands for a number in a comparison with a float. -/
def asDouble? : Value → Option Double
  | .int i => some (.ofInt i.toInt)
  | .float x => some x
  | _ => none

/-- Exact numbers, integers or floats, are compared as doubles. -/
theorem looselyEquals_of_asDouble? {a b : Value} {x y : Double} (number : a.asDouble? = some x)
    (number' : b.asDouble? = some y) (exact : a.Exact) (exact' : b.Exact) :
    a.looselyEquals b = x.equals y := by
  cases a with
  | int i =>
    obtain rfl := Option.some.inj number
    cases b with
    | int j =>
      obtain rfl := Option.some.inj number'
      have same := Double.ofInt_equals_ofInt_iff (exact.2 i rfl) (exact'.2 j rfl)
      rw [Bool.eq_iff_iff, looselyEquals, beq_iff_eq, same, Int64.toInt_inj]
    | float y =>
      obtain rfl := Option.some.inj number'
      rfl
    | _ => contradiction
  | float x =>
    obtain rfl := Option.some.inj number
    cases b with
    | int j =>
      obtain rfl := Option.some.inj number'
      exact Double.equals_comm _ _
    | float y =>
      obtain rfl := Option.some.inj number'
      rfl
    | _ => contradiction
  | _ => contradiction

/-- A number is equal to numbers alone. -/
theorem isNumber_of_looselyEquals {a b : Value} (number : a.isNumber = true)
    (equal : a.looselyEquals b = true) : b.isNumber = true := by
  cases a <;> cases b <;> first | rfl | contradiction

theorem exists_asDouble? {v : Value} (number : v.isNumber = true) : ∃ x, v.asDouble? = some x := by
  cases v <;> first | exact ⟨_, rfl⟩ | contradiction

theorem looselyEquals_trans_of_number {a b c : Value} (number : a.isNumber = true)
    (exact : a.Exact) (exact' : b.Exact) (exact'' : c.Exact) (first : a.looselyEquals b = true)
    (second : b.looselyEquals c = true) : a.looselyEquals c = true := by
  have number' := isNumber_of_looselyEquals number first
  obtain ⟨x, here⟩ := exists_asDouble? number
  obtain ⟨y, between⟩ := exists_asDouble? number'
  obtain ⟨z, there⟩ := exists_asDouble? (isNumber_of_looselyEquals number' second)
  rw [looselyEquals_of_asDouble? here between exact exact'] at first
  rw [looselyEquals_of_asDouble? between there exact' exact''] at second
  rw [looselyEquals_of_asDouble? here there exact exact'']
  exact Double.equals_trans first second

/-- Chains of the parts carry over to the whole. -/
theorem looselyEquals_trans_array {as bs cs : List Value}
    (parts : ∀ x ∈ as, ∀ y ∈ bs, ∀ z ∈ cs, x.looselyEquals y = true → y.looselyEquals z = true →
      x.looselyEquals z = true)
    (first : (Value.array as).looselyEquals (.array bs) = true)
    (second : (Value.array bs).looselyEquals (.array cs) = true) :
    (Value.array as).looselyEquals (.array cs) = true := by
  obtain ⟨count, first⟩ := looselyEquals_array_iff.mp first
  obtain ⟨count', second⟩ := looselyEquals_array_iff.mp second
  -- the arrays are of one length, so there is an item between
  refine looselyEquals_array_iff.mpr ⟨count.trans count', fun i x z here there => ?_⟩
  have inside : i < bs.length := count ▸ (List.getElem?_eq_some_iff.mp here).1
  have between : bs[i]? = some bs[i] := List.getElem?_eq_getElem inside
  exact parts x (List.mem_of_getElem? here) bs[i] (List.mem_of_getElem? between) z
    (List.mem_of_getElem? there) (first i x _ here between) (second i _ z between there)

theorem looselyEquals_trans_object {as bs cs : Fields}
    (parts : ∀ x ∈ as, ∀ y ∈ bs, ∀ z ∈ cs, x.2.looselyEquals y.2 = true →
      y.2.looselyEquals z.2 = true → x.2.looselyEquals z.2 = true)
    (first : (Value.object as).looselyEquals (.object bs) = true)
    (second : (Value.object bs).looselyEquals (.object cs) = true) :
    (Value.object as).looselyEquals (.object cs) = true := by
  obtain ⟨count, first⟩ := looselyEquals_object_iff.mp first
  obtain ⟨count', second⟩ := looselyEquals_object_iff.mp second
  refine looselyEquals_object_iff.mpr ⟨count.trans count', fun field member => ?_⟩
  obtain ⟨v, between, equal⟩ := first field member
  have member' := Table.mem_of_get? between
  obtain ⟨w, there, equal'⟩ := second _ member'
  exact ⟨w, there, parts field member _ member' _ (Table.mem_of_get? there) equal equal'⟩

theorem looselyEquals_trans {a b c : Value} (exact : a.Exact) (exact' : b.Exact)
    (exact'' : c.Exact) (first : a.looselyEquals b = true) (second : b.looselyEquals c = true) :
    a.looselyEquals c = true := by
  induction a generalizing b c with
  -- an integer and a float are the only values of two kinds that are ever equal
  | int i => exact looselyEquals_trans_of_number rfl exact exact' exact'' first second
  | float x => exact looselyEquals_trans_of_number rfl exact exact' exact'' first second
  | null =>
    cases b with
    | null => exact second
    | _ => contradiction
  | bool x =>
    cases b with
    | bool y =>
      obtain rfl := eq_of_beq first
      exact second
    | _ => contradiction
  | string s =>
    cases b with
    | string t =>
      obtain rfl := eq_of_beq first
      exact second
    | _ => contradiction
  | array as ih =>
    cases b with
    | array bs =>
      cases c with
      | array cs =>
        refine looselyEquals_trans_array (fun x here y between z there => ?_) first second
        exact ih x here (throughoutItems_iff.mp exact x here)
          (throughoutItems_iff.mp exact' y between) (throughoutItems_iff.mp exact'' z there)
      | _ => contradiction
    | _ => contradiction
  | object as ih =>
    cases b with
    | object bs =>
      cases c with
      | object cs =>
        refine looselyEquals_trans_object (fun x here y between z there => ?_) first second
        exact ih x here (throughoutFields_iff.mp exact x here)
          (throughoutFields_iff.mp exact' y between) (throughoutFields_iff.mp exact'' z there)
      | _ => contradiction
    | _ => contradiction

/-- Loose equality is symmetric, holds of a value with itself unless a NaN is inside, and follows
from strict equality. Where no number is rounded it is an equivalence, in which an integer and a
float are equal if they denote one number. -/
theorem looselyEquals_laws :
    (∀ a b : Value, a.Ordered → b.Ordered → a.looselyEquals b = b.looselyEquals a) ∧
      (∀ a : Value, a.Ordered → (a.looselyEquals a = true ↔ a.NanFree)) ∧
      (∀ a b : Value, a.Ordered → b.Ordered → a.equals b = true → a.looselyEquals b = true) ∧
      (Equivalence fun a b : { v : Value // v.Ordered ∧ v.Exact } =>
        a.1.looselyEquals b.1 = true) ∧
      ∀ (i : Int64) (x : Double), (Value.int i).Exact →
        ((Value.int i).looselyEquals (.float x) = true ↔
          x.finite?.map Finite.toRat = some (i.toInt : ℚ)) := by
  refine ⟨fun a b order order' => ?_, fun a order => ?_, fun a b order order' equal => ?_,
    ⟨fun a => ?_, fun {a b} equal => ?_, fun {a b c} first second => ?_⟩, fun i x exact => ?_⟩
  · exact looselyEquals_comm (distinct_of_ordered a order) (distinct_of_ordered b order')
  · exact looselyEquals_self_iff (distinct_of_ordered a order)
  · exact looselyEquals_of_equals (distinct_of_ordered b order') equal
  · exact (looselyEquals_self_iff (distinct_of_ordered a.1 a.2.1)).mpr a.2.2.nanFree
  · exact looselyEquals_flip (distinct_of_ordered a.1 a.2.1) (distinct_of_ordered b.1 b.2.1) equal
  · exact looselyEquals_trans a.2.2 b.2.2 c.2.2 first second
  · rw [looselyEquals]
    exact Double.ofInt_equals_iff (exact.2 i rfl) x

-- One more than `2 ^ 53` is rounded, and the chain breaks.
example : (int 9007199254740992).looselyEquals (.float (.ofInt 9007199254740992)) = true ∧
    (float (.ofInt 9007199254740992)).looselyEquals (.int 9007199254740993) = true ∧
      (int 9007199254740992).looselyEquals (.int 9007199254740993) = false := by
  decide +kernel

end MatchTree.Value
