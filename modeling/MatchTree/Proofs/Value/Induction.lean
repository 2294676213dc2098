import MatchTree.Value.Basic

/-!
Induction on values: what passes from the items and fields of a value to the value holds of
every value.
-/

set_option autoImplicit false
namespace MatchTree.Value

@[induction_eliminator]
theorem inductionOn {motive : Value → Prop} (null : motive .null) (bool : ∀ b, motive (.bool b))
    (int : ∀ i, motive (.int i)) (float : ∀ x, motive (.float x))
    (string : ∀ s, motive (.string s))
    (array : ∀ items : List Value, (∀ item ∈ items, motive item) → motive (.array items))
    (object : ∀ fields : List (String × Value),
      (∀ field ∈ fields, motive field.2) → motive (.object fields)) (v : Value) : motive v :=
  -- lists of items, lists of fields and single fields each have a motive of their own
  @Value.rec motive (fun items => ∀ item ∈ items, motive item)
    (fun fields => ∀ field ∈ fields, motive field.2) (fun field => motive field.2)
    null bool int float string array object
    (fun _ member => nomatch member) (fun _ _ first rest => List.forall_mem_cons.mpr ⟨first, rest⟩)
    (fun _ member => nomatch member) (fun _ _ first rest => List.forall_mem_cons.mpr ⟨first, rest⟩)
    (fun _ _ holds => holds) v

end MatchTree.Value
