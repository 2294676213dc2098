import MatchTree.Proofs.Text.Lines
import MatchTree.Proofs.Value.Induction
import MatchTree.Proofs.Value.Text
import MatchTree.Test.Basic

/-!
What messages hold as it is.

Values are shown quoted and escaped, but needles, keys, patterns and the messages of other expanders
stand in a message raw. A message is broken exactly if one of these is.
-/

set_option autoImplicit false
namespace MatchTree

/-! ## What is shown of values -/

namespace Value

theorem lineFeed_notMem_chars (v : Value) : '\n' ∉ v.chars := by
  have comma : '\n' ∉ [',', ' '] := by decide
  have word (v : Value) (word : v.lead? = none) : '\n' ∉ v.chars := fun member =>
    absurd (List.all_eq_true.mp (word_chars word).2 _ member) (by decide)
  induction v with
  | string s => exact lineFeed_notMem_quoteChars s.toList
  | array items ih =>
    have inside := (lineFeed_notMem_intercalate_iff comma).mpr (List.forall_mem_map.mpr ih)
    simp [chars, itemChars_eq, inside]
  | object fields ih =>
    have entry : ∀ field ∈ fields, '\n' ∉ entryChars field := fun field member => by
      simp [entryChars, lineFeed_notMem_quoteChars, ih field member]
    have inside := (lineFeed_notMem_intercalate_iff comma).mpr (List.forall_mem_map.mpr entry)
    simp [chars, fieldChars_eq, inside]
  | _ => exact word _ rfl

theorem unbroken_text (v : Value) : Unbroken v.text :=
  unbroken_ofList_iff.mpr v.lineFeed_notMem_chars

theorem unbroken_typeName (v : Value) : Unbroken v.typeName := by
  cases v <;> simp only [typeName] <;> decide

end Value

theorem unbroken_numberText (x : Finite) : Unbroken (Mismatch.numberText x) :=
  fun member => (Value.float (.finite x)).lineFeed_notMem_chars member

theorem lineFeed_notMem_paddedNat (width n : Nat) : '\n' ∉ paddedNat width n := by
  simp [paddedNat, lineFeed_notMem_toDigits]

theorem Date.lineFeed_notMem_chars (d : Date) : '\n' ∉ d.chars := by
  have year : '\n' ∉ yearChars d.year := by
    rw [yearChars]
    split <;> (try split) <;> simp [lineFeed_notMem_paddedNat]
  simp [chars, year, lineFeed_notMem_paddedNat]

theorem TimeOfDay.lineFeed_notMem_chars (t : TimeOfDay) : '\n' ∉ t.chars := by
  have fraction (nano : Nat) : '\n' ∉ fractionChars nano := by
    rw [fractionChars]
    split <;> (try split) <;> (try split) <;> simp [lineFeed_notMem_paddedNat]
  simp [chars, fraction, lineFeed_notMem_paddedNat]

theorem Moment.unbroken_text (m : Moment) : Unbroken m.text :=
  unbroken_ofList_iff.mpr (by simp [m.date.lineFeed_notMem_chars, m.time.lineFeed_notMem_chars])

theorem Url.Fault.unbroken_message (fault : Url.Fault) : Unbroken fault.message := by
  cases fault <;> decide

namespace Mismatch

/-- The texts that stand raw in a message. -/
def rawTexts : Mismatch → List String
  | noStart _ needle | noEnd _ needle | noPart _ needle | hasPart _ needle => [needle]
  | noRegexMatch _ regex => [regex]
  | noProperty _ key | missingKey key _ | extraKey key _ => [key]
  | atKey key inner => key :: inner.rawTexts
  | atIndex _ inner => inner.rawTexts
  | atItem _ error => [error]
  | rejected _ expander => [expander]
  | noneMatched errors => errors
  | _ => []

-- A wording is a chain of pieces. Each of these lemmas is about one form of the chain.
section
variable {front middle back : String}

theorem unbroken_shown (v : Value) (plain : Unbroken front ∧ Unbroken back) :
    Unbroken (front ++ toString v.text ++ back) := by
  rw [unbroken_append_iff, unbroken_append_iff]
  exact ⟨⟨plain.1, v.unbroken_text⟩, plain.2⟩

theorem unbroken_shown_append_iff (v : Value) {more : String}
    (plain : Unbroken front ∧ Unbroken middle) :
    Unbroken (front ++ toString v.text ++ middle ++ toString more) ↔ Unbroken more := by
  rw [unbroken_append_iff]
  exact and_iff_right (unbroken_shown v plain)

theorem unbroken_named (v : Value) {shown : String} (unbroken : Unbroken shown)
    (plain : Unbroken back) :
    Unbroken (toString v.typeName ++ toString " " ++ toString shown ++ back) := by
  simp only [unbroken_append_iff]
  exact ⟨⟨⟨v.unbroken_typeName, by decide⟩, unbroken⟩, plain⟩

theorem unbroken_counted {shown : String} (unbroken : Unbroken shown) (plain : Unbroken middle)
    (count expected : Nat) :
    Unbroken (shown ++ toString count ++ middle ++ toString expected) := by
  simp only [unbroken_append_iff]
  exact ⟨⟨⟨unbroken, unbroken_repr count⟩, plain⟩, unbroken_repr expected⟩

theorem unbroken_led_iff {first last : String} (plain : Unbroken front ∧ Unbroken middle) :
    Unbroken (front ++ toString first ++ middle ++ toString last) ↔
      Unbroken first ∧ Unbroken last := by
  simp only [unbroken_append_iff, plain, true_and, and_true]
  exact Iff.rfl

end

/-- By cases on the wording, and by induction where a message goes on inside another. -/
theorem unbroken_message_iff (mismatch : Mismatch) :
    Unbroken mismatch.message ↔ ∀ text ∈ mismatch.rawTexts, Unbroken text := by
  have shown {text : String} (unbroken : Unbroken text) :
      Unbroken text ↔ ∀ raw ∈ ([] : List String), Unbroken raw :=
    iff_of_true unbroken (List.forall_mem_nil _)
  induction mismatch with
  | notString v =>
    exact shown (unbroken_named v (unbroken_inQuotes_iff.mpr v.unbroken_text) (by decide))
  | notArray v | notObject v =>
    exact shown (unbroken_named v v.unbroken_text (by decide))
  | notNumber v | notDate v | isFilled v | isBare v | notEmail v | notIp v | notOffset v
  | notAbbreviation v | notIdentifier v =>
    exact shown (unbroken_shown v ⟨by decide, by decide⟩)
  | noStart v raw | noEnd v raw | noPart v raw | hasPart v raw | noRegexMatch v raw
  | noProperty v raw =>
    exact ((unbroken_shown_append_iff v ⟨by decide, by decide⟩).trans unbroken_inQuotes_iff).trans
      List.forall_mem_singleton.symm
  | rejected v raw =>
    exact (unbroken_shown_append_iff v ⟨by decide, by decide⟩).trans List.forall_mem_singleton.symm
  | notGreater v bound | notLower v bound =>
    exact shown ((unbroken_shown_append_iff v ⟨by decide, by decide⟩).mpr
      (unbroken_numberText bound))
  | noItem v needle | differs v needle =>
    exact shown ((unbroken_shown_append_iff v ⟨by decide, by decide⟩).mpr
      needle.unbroken_text)
  | notUrl v fault =>
    exact shown ((unbroken_shown_append_iff v ⟨by decide, by decide⟩).mpr
      fault.unbroken_message)
  | notAfter v bound | notBefore v bound =>
    exact shown ((unbroken_shown_append_iff v ⟨by decide, by decide⟩).mpr
      bound.unbroken_text)
  | missingKey key v | extraKey key v =>
    refine (unbroken_led_iff ⟨by decide, by decide⟩).trans ?_
    rw [unbroken_inQuotes_iff, and_iff_left v.unbroken_text]
    exact List.forall_mem_singleton.symm
  | wrongCount v count expected =>
    have front := unbroken_named v v.unbroken_text (by decide : Unbroken " has ")
    exact shown (unbroken_counted front (by decide) count expected)
  | wrongLength v count expected =>
    have front := unbroken_shown v (by decide : Unbroken "array " ∧ Unbroken " has ")
    exact shown (unbroken_counted front (by decide) count expected)
  | atKey key inner ih =>
    refine (unbroken_led_iff ⟨by decide, by decide⟩).trans ?_
    exact (and_congr unbroken_inQuotes_iff ih).trans List.forall_mem_cons.symm
  | atIndex index inner ih =>
    refine (unbroken_led_iff ⟨by decide, by decide⟩).trans ?_
    exact (and_iff_right (unbroken_repr index)).trans ih
  | atItem index error =>
    refine (unbroken_led_iff ⟨by decide, by decide⟩).trans ?_
    exact (and_iff_right (unbroken_repr index)).trans List.forall_mem_singleton.symm
  | noneMatched errors =>
    have separator : Unbroken "; " := by decide
    refine unbroken_append_iff.trans ?_
    rw [unbroken_intercalate_iff separator]
    exact and_iff_right (by decide)

end Mismatch

/-! ## Tests -/

/-- If it fails, this is told in one line. -/
def ToldInLine {α : Type} (outcome : Except Mismatch α) : Prop :=
  ∀ mismatch, outcome = .error mismatch → Unbroken mismatch.message

section
variable {α β : Type}

@[simp] theorem toldInLine_ok (a : α) : ToldInLine (.ok a : Except Mismatch α) := nofun

@[simp] theorem toldInLine_error_iff {mismatch : Mismatch} :
    ToldInLine (.error mismatch : Except Mismatch α) ↔
      ∀ text ∈ mismatch.rawTexts, Unbroken text := by
  rw [← mismatch.unbroken_message_iff]
  exact ⟨fun told => told mismatch rfl, fun unbroken _ same => Except.error.inj same ▸ unbroken⟩

theorem ToldInLine.bind {first : Except Mismatch α} {next : α → Except Mismatch β}
    (told : ToldInLine first) (later : ∀ a, ToldInLine (next a)) : ToldInLine (first >>= next) := by
  cases first with
  | error mismatch => exact toldInLine_error_iff.mpr (toldInLine_error_iff.mp told)
  | ok a => exact later a

theorem toldInLine_require {condition : Bool} {otherwise : Mismatch}
    (unbroken : ∀ text ∈ otherwise.rawTexts, Unbroken text) :
    ToldInLine (Test.require condition otherwise) := by
  cases condition
  · exact toldInLine_error_iff.mpr unbroken
  · exact toldInLine_ok ()

end

namespace Test

/-- The texts of a test that stand raw in its messages. -/
def rawTexts : Test → List String
  | startsWith needle _ | endsWith needle _ | contains needle _ | notContains needle _ => [needle]
  | matchRegex regex => [regex.source]
  | hasProperty key => [key]
  | _ => []

theorem toldInLine_textOf (v : Value) : ToldInLine (textOf v) := by
  cases v <;> simp [textOf, Mismatch.rawTexts]

theorem toldInLine_numberOf (v : Value) : ToldInLine (numberOf v) := by
  rw [numberOf]
  cases v.asNumber <;> simp [Mismatch.rawTexts]

theorem toldInLine_momentOf (v : Value) : ToldInLine (momentOf v) := by
  refine (toldInLine_textOf v).bind fun text => ?_
  cases Moment.read? text with
  | none => exact toldInLine_error_iff.mpr (List.forall_mem_nil _)
  | some m => exact toldInLine_ok m

theorem toldInLine_itemsOf (v : Value) : ToldInLine (itemsOf v) := by
  cases v <;> simp [itemsOf, Mismatch.rawTexts]

theorem toldInLine_check {t : Test} (unbroken : ∀ text ∈ t.rawTexts, Unbroken text) (v : Value) :
    ToldInLine (t.check v) := by
  have nothing : ∀ text ∈ ([] : List String), Unbroken text := List.forall_mem_nil _
  cases t with
  | startsWith | endsWith | contains | notContains | matchRegex =>
    exact (toldInLine_textOf v).bind fun _ => toldInLine_require unbroken
  | greaterThan | lowerThan =>
    exact (toldInLine_numberOf v).bind fun _ => toldInLine_require nothing
  | inArray => exact (toldInLine_itemsOf v).bind fun _ => toldInLine_require nothing
  | after | before => exact (toldInLine_momentOf v).bind fun _ => toldInLine_require nothing
  | isDateTime => exact (toldInLine_momentOf v).bind fun _ => toldInLine_ok ()
  | isEmpty | isNotEmpty => exact toldInLine_require nothing
  | optional => exact toldInLine_ok ()
  | count =>
    cases v with
    | array | object => exact toldInLine_require nothing
    | _ => exact toldInLine_error_iff.mpr nothing
  | hasProperty =>
    cases v with
    | object => exact toldInLine_require unbroken
    | _ => exact toldInLine_error_iff.mpr nothing
  | isUrl =>
    refine (toldInLine_textOf v).bind fun text => ?_
    cases Url.check text.toList with
    | error => exact toldInLine_error_iff.mpr nothing
    | ok => exact toldInLine_ok _
  | _ => exact (toldInLine_textOf v).bind fun _ => toldInLine_require nothing

end Test
end MatchTree
