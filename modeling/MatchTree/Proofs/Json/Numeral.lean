import MatchTree.Json.Writer
import MatchTree.Json.Token
import MatchTree.Proofs.Number.Rounding
import MatchTree.Proofs.Number.Spelling

/-!
Numerals of a document, by their parts.

A `Numeral` lists its parts and says that each is well formed; its text is read as the decimal
that the parts spell, as long as the digits fit 64 bits. Integers and finite doubles are both
written as numerals, and the text alone tells which of the two it was: a double has a point or an
exponent.
-/

set_option autoImplicit false
namespace MatchTree
namespace Json

/-- No digit is left over where all of them fit. -/
theorem fitDigits_of_lt {start : Nat} {digits : List Char}
    (fits : digitsFrom start digits < 2 ^ 64) :
    fitDigits start digits = (digitsFrom start digits, 0) := by
  induction digits generalizing start with
  | nil => rfl
  | cons c rest ih =>
    have next : 10 * start + digitValue c < 2 ^ 64 := Nat.lt_of_le_of_lt (le_digitsFrom _ rest) fits
    rw [fitDigits, if_pos next, ih fits]
    rfl

theorem scan?_spelling (n : Spelling) (fits : n.decimal.coefficient < 2 ^ 64) :
    scan? n.chars = some n.decimal := by
  have joined : ofDigits (n.whole ++ n.fraction.getD []) =
      digitsFrom (ofDigits n.whole) (n.fraction.getD []) := List.foldl_append
  rw [Spelling.decimal, joined] at fits
  have whole : fitDigits 0 n.whole = (ofDigits n.whole, 0) :=
    fitDigits_of_lt (Nat.lt_of_le_of_lt (le_digitsFrom _ _) fits)
  simp only [scan?, Spelling.chars, Sign.readSign_chars _ n.unsigned, n.span_whole,
    n.readFraction_chars, Power.readExponent?_chars, whole, fitDigits_of_lt fits, Spelling.decimal,
    joined]
  simp

/-- The power is a sign, `true` for minus, and digits. -/
structure Numeral where
  negative : Bool
  whole : List Char
  fraction : List Char
  power : Option (Bool × List Char)
  isWhole_whole : isWhole whole = true
  isDigit_fraction : fraction.all Char.isDigit = true
  digitsOnly_power : ∀ part ∈ power, digitsOnly part.2 = true

theorem isWhole_of_head {c : Char} {rest : List Char} (nonzero : c ≠ '0')
    (digits : (c :: rest).all Char.isDigit = true) : isWhole (c :: rest) = true := by
  rw [isWhole.eq_def]
  split
  case h_1 empty => exact nomatch empty
  case h_2 => rfl
  case h_3 zero => exact absurd (List.cons.inj zero).1 nonzero
  case h_4 => exact digits

theorem isWhole_toDigits (n : Nat) : isWhole (Nat.toDigits 10 n) = true := by
  obtain rfl | positive := Nat.eq_zero_or_pos n
  · rfl
  · obtain ⟨c, rest, shape, nonzero⟩ := toDigits_head positive
    rw [shape]
    exact isWhole_of_head nonzero (shape ▸ all_isDigit_toDigits n)

theorem isDigit_of_isWhole {digits : List Char} (whole : isWhole digits = true) :
    digits.all Char.isDigit = true := by
  rw [isWhole.eq_def] at whole
  split at whole
  case h_1 | h_3 => exact nomatch whole
  case h_2 => rfl
  case h_4 => exact whole

namespace Numeral

def powerChars : Option (Bool × List Char) → List Char
  | none => []
  | some (negative, digits) => 'e' :: (if negative then '-' else '+') :: digits

/-- A point stands before a fraction only. -/
def tailChars (n : Numeral) : List Char :=
  (if n.fraction.isEmpty then [] else '.' :: n.fraction) ++ powerChars n.power

def chars (n : Numeral) : List Char :=
  (if n.negative then ['-'] else []) ++ (n.whole ++ n.tailChars)

/-- No point and no exponent. -/
def Integral (n : Numeral) : Prop := n.fraction = [] ∧ n.power = none

def powerValue : Option (Bool × List Char) → Int
  | none => 0
  | some (negative, digits) => if negative then -(ofDigits digits : Int) else ofDigits digits

/-- The number that the parts spell. -/
def decimal (n : Numeral) : Decimal :=
  ⟨n.negative, ofDigits (n.whole ++ n.fraction), powerValue n.power - n.fraction.length⟩

variable (n : Numeral)

theorem digitsOnly_iff {digits : List Char} :
    digitsOnly digits = true ↔ digits ≠ [] ∧ digits.all Char.isDigit = true := by
  simp [digitsOnly]

/-- A numeral begins with a digit, its sign apart. -/
theorem exists_whole : ∃ c rest, n.whole = c :: rest ∧ c.isDigit = true := by
  have whole := n.isWhole_whole
  cases shape : n.whole with
  | nil => rw [shape] at whole; exact nomatch whole
  | cons c rest =>
    have digits := isDigit_of_isWhole whole
    rw [shape, List.all_cons, Bool.and_eq_true_iff] at digits
    exact ⟨c, rest, rfl, digits.1⟩

theorem powerChars_head : ∀ c ∈ (powerChars n.power).head?, c.isDigit = false := by
  intro c member
  cases shape : n.power with
  | none => simp [shape, powerChars] at member
  | some part =>
    obtain rfl : 'e' = c := by simpa [shape, powerChars] using member
    rfl

theorem tailChars_head : ∀ c ∈ n.tailChars.head?, c.isDigit = false := by
  intro c member
  rw [tailChars] at member
  split at member
  case isTrue => exact n.powerChars_head c member
  case isFalse =>
    obtain rfl : '.' = c := by simpa using member
    rfl

theorem span_whole : (n.whole ++ n.tailChars).span Char.isDigit = (n.whole, n.tailChars) :=
  span_isDigit (isDigit_of_isWhole n.isWhole_whole) n.tailChars_head

theorem span_fraction :
    (n.fraction ++ powerChars n.power).span Char.isDigit = (n.fraction, powerChars n.power) :=
  span_isDigit n.isDigit_fraction n.powerChars_head

/-- The power of a decimal text. -/
def spelledPower (power : Option (Bool × List Char))
    (proper : ∀ part ∈ power, digitsOnly part.2 = true) : Option Power :=
  power.pmap (fun part digits => ⟨false, some part.1, part.2, digits.1, digits.2⟩)
    fun part member => digitsOnly_iff.mp (proper part member)

section
variable {power : Option (Bool × List Char)} (proper : ∀ part ∈ power, digitsOnly part.2 = true)

theorem chars_spelledPower : Power.chars (spelledPower power proper) = powerChars power := by
  cases power <;> rfl

theorem value_spelledPower : Power.value (spelledPower power proper) = powerValue power := by
  cases power with
  | none => rfl
  | some part =>
    rw [powerValue, ofDigits_eq]
    rfl

end

/-- A numeral is a decimal text. -/
def spelling : Spelling where
  sign := if n.negative then some true else none
  whole := n.whole
  fraction := if n.fraction.isEmpty then none else some n.fraction
  power := spelledPower n.power n.digitsOnly_power
  isDigit_whole := isDigit_of_isWhole n.isWhole_whole
  isDigit_fraction := by
    split
    · rfl
    · exact n.isDigit_fraction
  digits_ne_nil := by
    obtain ⟨c, rest, shape, _⟩ := n.exists_whole
    simp [shape]

theorem chars_spelling : n.spelling.chars = n.chars := by
  have sign : Sign.chars (if n.negative then some true else none) =
      if n.negative then ['-'] else [] := by
    cases n.negative <;> rfl
  have fraction : Spelling.fractionChars (if n.fraction.isEmpty then none else some n.fraction) =
      if n.fraction.isEmpty then [] else '.' :: n.fraction := by
    split <;> rfl
  rw [Spelling.chars, spelling, sign, fraction, chars_spelledPower, chars, tailChars]

theorem decimal_spelling : n.spelling.decimal = n.decimal := by
  have sign : Sign.negative (if n.negative then some true else none) = n.negative := by
    cases n.negative <;> rfl
  have fraction : (if n.fraction.isEmpty then none else some n.fraction).getD [] = n.fraction := by
    cases n.fraction <;> rfl
  rw [Spelling.decimal, spelling, sign, fraction, value_spelledPower, decimal]

/-- The text of a numeral spells what its parts do. -/
theorem read?_chars : Decimal.read? n.chars = some n.decimal := by
  rw [← n.chars_spelling, n.spelling.read?_chars, n.decimal_spelling]

/-- A document is read for the same decimal, if its digits fit. -/
theorem scan?_chars (fits : n.decimal.coefficient < 2 ^ 64) : scan? n.chars = some n.decimal := by
  rw [← n.decimal_spelling] at fits
  rw [← n.chars_spelling, scan?_spelling _ fits, n.decimal_spelling]

theorem isPower_digits {negative : Bool} {digits : List Char} (proper : digitsOnly digits = true) :
    isPower ((if negative then '-' else '+') :: digits) = true := by
  cases negative <;> exact proper

/-- A sign and digits may follow the `e` of an exponent, if there is one. -/
theorem powerChars_cases :
    powerChars n.power = [] ∨ ∃ text, powerChars n.power = 'e' :: text ∧ isPower text = true := by
  cases shape : n.power with
  | none => exact .inl rfl
  | some part => exact .inr ⟨_, rfl, isPower_digits (n.digitsOnly_power part shape)⟩

theorem isTail_tailChars : isTail n.tailChars = true := by
  have span := n.span_fraction
  rw [tailChars]
  cases fraction : n.fraction with
  | nil =>
    obtain none | ⟨text, shape, proper⟩ := n.powerChars_cases
    · rw [none]; rfl
    · rw [shape]; exact proper
  | cons c rest =>
    show isTail ('.' :: (c :: rest ++ powerChars n.power)) = true
    rw [fraction] at span
    simp only [isTail, span]
    obtain none | ⟨text, shape, proper⟩ := n.powerChars_cases
    · rw [none]; rfl
    · rw [shape]; exact proper

theorem isNumeral_chars : isNumeral n.chars = true := by
  obtain ⟨c, rest, shape, digit⟩ := n.exists_whole
  have span := n.span_whole
  have proper : (isWhole n.whole && isTail n.tailChars) = true := by
    rw [n.isWhole_whole, n.isTail_tailChars, Bool.and_self]
  rw [chars]
  cases n.negative with
  | true =>
    show isNumeral ('-' :: (n.whole ++ n.tailChars)) = true
    simp only [isNumeral, span, proper]
  | false =>
    show isNumeral (n.whole ++ n.tailChars) = true
    rw [isNumeral.eq_def]
    split
    case h_1 minus =>
      rw [shape] at minus
      exact absurd (List.cons.inj minus).1 (ne_of_isDigit digit rfl)
    case h_2 => simp only [span, proper]

/-- Only the point and the exponent tell a numeral from an integer. -/
theorem all_integral : n.chars.all (fun c => c.isDigit || c == '-') = true ↔ n.Integral := by
  have digits {text : List Char} (all : text.all Char.isDigit = true) :
      text.all (fun c => c.isDigit || c == '-') = true := by
    refine List.all_eq_true.mpr fun c member => ?_
    rw [List.all_eq_true.mp all c member, Bool.true_or]
  have sign : (if n.negative then ['-'] else []).all (fun c => c.isDigit || c == '-') = true := by
    cases n.negative <;> rfl
  rw [chars, List.all_append, List.all_append, sign, digits (isDigit_of_isWhole n.isWhole_whole),
    Bool.true_and, Bool.true_and, tailChars, Integral]
  cases n.fraction with
  | cons c rest => simp
  | nil =>
    cases n.power with
    | none => simp [powerChars]
    | some part => simp [powerChars]

theorem isWordChar_of_isDigit {c : Char} (digit : c.isDigit = true) : isWordChar c = true := by
  simp [isWordChar, Char.isAlphanum, digit]

theorem isWordChar_chars : n.chars.all isWordChar = true := by
  have digits {text : List Char} (all : text.all Char.isDigit = true) :
      text.all isWordChar = true :=
    List.all_eq_true.mpr fun c member => isWordChar_of_isDigit (List.all_eq_true.mp all c member)
  have sign (negative : Bool) : (if negative then ['-'] else []).all isWordChar = true := by
    cases negative <;> rfl
  have power : (powerChars n.power).all isWordChar = true := by
    cases shape : n.power with
    | none => rfl
    | some part =>
      have proper := n.digitsOnly_power part shape
      obtain ⟨_, all⟩ := digitsOnly_iff.mp proper
      rw [powerChars, List.all_cons, List.all_cons, digits all]
      cases part.1 <;> rfl
  have fraction : (if n.fraction.isEmpty then [] else '.' :: n.fraction).all isWordChar = true := by
    split
    · rfl
    · rw [List.all_cons, digits n.isDigit_fraction]; rfl
  rw [chars, tailChars, List.all_append, List.all_append, List.all_append, sign, fraction, power,
    digits (isDigit_of_isWhole n.isWhole_whole)]
  rfl

theorem chars_ne_nil : n.chars ≠ [] := by
  obtain ⟨c, rest, shape, _⟩ := n.exists_whole
  simp [chars, shape]

end Numeral
end Json
end MatchTree
