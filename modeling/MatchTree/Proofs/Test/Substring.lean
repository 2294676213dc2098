import Mathlib
import MatchTree.Proofs.Text.Utf8
import MatchTree.Test.Substring

/-!
Where a text begins with another, ends with it or holds it, without counting bytes.

A letter takes as many bytes in either case. So if a needle stands at the start or the end of a text
but for the case of letters, the cut by its number of bytes is the one before or behind it.
-/

set_option autoImplicit false
namespace MatchTree.Substring

/-! ## The case of letters -/

theorem utf8Size_toLower (c : Char) : c.toLower.utf8Size = c.utf8Size := by
  by_cases upper : c.val ≥ 'A'.val ∧ c.val ≤ 'Z'.val
  · -- both of them are among the first 128 characters
    have size (d : Char) (low : d.val ≤ 127) : d.utf8Size = 1 := if_pos low
    rw [size c (by grind), size c.toLower]
    rw [Char.toLower, dif_pos upper]
    grind
  · rw [Char.toLower, dif_neg upper]

theorem lineFeed_notMem_lower {text : List Char} (unbroken : '\n' ∉ text) :
    '\n' ∉ lower text := by
  intro member
  obtain ⟨c, inside, same⟩ := List.mem_map.mp member
  rw [Char.toLower] at same
  split at same
  case isTrue upper =>
    have code : c.val + 32 = 10 := congrArg Char.val same
    grind
  case isFalse => exact unbroken (same ▸ inside)

/-- A text as it is compared. -/
def fold (ignoreCase : Bool) (text : List Char) : List Char :=
  if ignoreCase then lower text else text

@[simp] theorem lower_lower (text : List Char) : lower (lower text) = lower text := by
  simp [lower]

@[simp] theorem fold_fold (ignoreCase : Bool) (text : List Char) :
    fold ignoreCase (fold ignoreCase text) = fold ignoreCase text := by
  cases ignoreCase <;> simp [fold]

/-- The same character, or the same ASCII letter in another case. -/
def CaseOf (c d : Char) : Prop := d = c ∨ d = c.toLower ∨ d = c.toUpper

/-- The same text but for the case of some ASCII letters. -/
def Recased (s t : String) : Prop := List.Forall₂ CaseOf s.toList t.toList

theorem lower_of_recased {text text' : List Char} (recased : List.Forall₂ CaseOf text text') :
    lower text' = lower text := by
  induction recased with
  | nil => rfl
  | @cons c d _ _ same _ ih =>
    have here : d.toLower = c.toLower := by
      rcases same with rfl | rfl | rfl <;> simp
    simp only [lower, List.map_cons, here] at ih ⊢
    rw [ih]

theorem utf8Length_lower (text : List Char) : utf8Length (lower text) = utf8Length text := by
  induction text with
  | nil => rfl
  | cons c rest ih =>
    rw [lower, List.map_cons, utf8Length_cons, utf8Length_cons, utf8Size_toLower]
    exact congrArg (c.utf8Size + ·) ih

theorem utf8Length_eq_of_lower {first second : List Char} (same : lower first = lower second) :
    utf8Length first = utf8Length second := by
  rw [← utf8Length_lower first, same, utf8Length_lower]

/-! ## Beginnings, ends and parts -/

variable {needle text : List Char}

theorem begins_folded_iff : begins needle true text = true ↔ lower needle <+: lower text := by
  simp only [begins, if_true, Option.any_eq_true, beq_iff_eq, Prod.exists, cutAt?_eq_some_iff]
  constructor
  · rintro ⟨front, back, ⟨rfl, _⟩, same⟩
    exact ⟨lower back, by rw [← same]; exact List.map_append.symm⟩
  · intro starts
    -- the front that agrees but for case is as long as the needle, so it is what is cut off
    obtain ⟨front, ⟨back, whole⟩, same⟩ := List.prefix_map_iff.mp starts
    exact ⟨front, back, ⟨whole, utf8Length_eq_of_lower same.symm⟩, same.symm⟩

theorem ends_folded_iff : ends needle true text = true ↔ lower needle <:+ lower text := by
  simp only [ends, if_true, Bool.and_eq_true, decide_eq_true_eq, Option.any_eq_true, beq_iff_eq,
    Prod.exists, cutAt?_eq_some_iff]
  constructor
  · rintro ⟨_, front, back, ⟨rfl, _⟩, same⟩
    exact ⟨lower front, by rw [← same]; exact List.map_append.symm⟩
  · intro finishes
    obtain ⟨back, ⟨front, rfl⟩, same⟩ := List.suffix_map_iff.mp finishes
    have length : utf8Length back = utf8Length needle := utf8Length_eq_of_lower same.symm
    rw [utf8Length_append, length]
    exact ⟨Nat.le_add_left _ _, front, back, ⟨rfl, (Nat.add_sub_cancel _ _).symm⟩, same.symm⟩

/-- A text that begins with a needle can be cut behind it. -/
theorem isValid_of_begins {p s : String} (starts : lower p.toList <+: lower s.toList) :
    String.Pos.Raw.IsValid s ⟨p.utf8ByteSize⟩ := by
  have begins := begins_folded_iff.mpr starts
  rw [← isSome_cutAt?_iff, ← utf8Length_toList]
  exact Option.isSome_of_any begins

theorem isValid_of_ends {p s : String} (finishes : lower p.toList <:+ lower s.toList) :
    p.utf8ByteSize ≤ s.utf8ByteSize ∧
      String.Pos.Raw.IsValid s ⟨s.utf8ByteSize - p.utf8ByteSize⟩ := by
  have ends := ends_folded_iff.mpr finishes
  rw [Substring.ends, if_pos rfl, Bool.and_eq_true, decide_eq_true_eq] at ends
  rw [← isSome_cutAt?_iff, ← utf8Length_toList, ← utf8Length_toList]
  exact ⟨ends.1, Option.isSome_of_any ends.2⟩

theorem begins_iff (ignoreCase : Bool) :
    begins needle ignoreCase text = true ↔ fold ignoreCase needle <+: fold ignoreCase text := by
  cases ignoreCase with
  | true => exact begins_folded_iff
  | false => exact List.isPrefixOf_iff_prefix

theorem ends_iff (ignoreCase : Bool) :
    ends needle ignoreCase text = true ↔ fold ignoreCase needle <:+ fold ignoreCase text := by
  cases ignoreCase with
  | true => exact ends_folded_iff
  | false => exact List.isSuffixOf_iff_suffix

theorem occurs_iff : occurs needle text = true ↔ needle <:+: text := by
  induction text with
  | nil => simp [occurs]
  | cons c rest ih =>
    rw [occurs, Bool.or_eq_true, ih, List.isPrefixOf_iff_prefix, List.infix_cons_iff]

theorem contains_iff (ignoreCase : Bool) :
    contains needle ignoreCase text = true ↔ needle <:+: fold ignoreCase text :=
  occurs_iff

end MatchTree.Substring
