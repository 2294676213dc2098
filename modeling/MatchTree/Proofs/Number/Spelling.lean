import Mathlib.Data.List.TakeDrop
import MatchTree.Proofs.Number.Digits

/-!
Decimal texts, by their parts.

A `Spelling` lists the parts that a text is made of; each begins where the digits of the one before
end. Its text is read as the decimal that the parts spell.
-/

set_option autoImplicit false
namespace MatchTree

theorem ne_of_isDigit {c d : Char} (digit : c.isDigit = true) (other : d.isDigit = false) :
    c ≠ d := by
  rintro rfl
  exact Bool.noConfusion (digit.symm.trans other)

theorem span_isDigit {front back : List Char} (digits : front.all Char.isDigit = true)
    (stop : ∀ c ∈ back.head?, c.isDigit = false) :
    (front ++ back).span Char.isDigit = (front, back) := by
  rw [List.span_eq_takeWhile_dropWhile]
  have inside := List.all_eq_true.mp digits
  rw [List.takeWhile_append_of_pos inside, List.dropWhile_append_of_pos inside]
  cases back with
  | nil => simp
  | cons c rest => simp [stop c rfl]

/-- A sign that need not be written; `true` is minus. -/
abbrev Sign := Option Bool

namespace Sign

def chars : Sign → List Char
  | none => []
  | some negative => [if negative then '-' else '+']

def negative (sign : Sign) : Bool := sign.getD false

theorem readSign_chars (sign : Sign) {rest : List Char}
    (unsigned : ∀ c ∈ rest.head?, c ≠ '-' ∧ c ≠ '+') :
    Decimal.readSign (sign.chars ++ rest) = (sign.negative, rest) := by
  obtain _ | negative := sign
  · cases rest with
    | nil => rfl
    | cons c rest =>
      have other := unsigned c rfl
      show Decimal.readSign (c :: rest) = _
      rw [Decimal.readSign.eq_def]
      split
      case h_1 minus => exact absurd (List.cons.inj minus).1 other.1
      case h_2 plus => exact absurd (List.cons.inj plus).1 other.2
      case h_3 => rfl
  · cases negative <;> rfl

end Sign

/-- The power of ten at the end of a text. -/
structure Power where
  capital : Bool
  sign : Sign
  digits : List Char
  digits_ne_nil : digits ≠ []
  isDigit_digits : digits.all Char.isDigit = true

namespace Power

def chars : Option Power → List Char
  | none => []
  | some power => (if power.capital then 'E' else 'e') :: (power.sign.chars ++ power.digits)

def value : Option Power → Int
  | none => 0
  | some power =>
    if power.sign.negative then -(Nat.ofDigitChars 10 power.digits 0 : Int)
    else Nat.ofDigitChars 10 power.digits 0

theorem chars_head (power : Option Power) : ∀ c ∈ (chars power).head?, c = 'e' ∨ c = 'E' := by
  cases power with
  | none => exact fun c none => nomatch none
  | some power => cases capital : power.capital <;> simp [chars, capital]

theorem readPower?_chars (power : Power) :
    Decimal.readPower? (power.sign.chars ++ power.digits) = some (value (some power)) := by
  obtain ⟨_, sign, digits, nonempty, all⟩ := power
  have unsigned : ∀ c ∈ digits.head?, c ≠ '-' ∧ c ≠ '+' := by
    intro c first
    have digit := List.all_eq_true.mp all c (List.mem_of_mem_head? first)
    exact ⟨ne_of_isDigit digit rfl, ne_of_isDigit digit rfl⟩
  simp [Decimal.readPower?, Sign.readSign_chars sign unsigned, nonempty, all, value, ofDigits_eq]

theorem readExponent?_chars (power : Option Power) :
    Decimal.readExponent? (chars power) = some (value power) := by
  cases power with
  | none => rfl
  | some power =>
    have letter : (if power.capital then 'E' else 'e') = 'e' ∨
        (if power.capital then 'E' else 'e') = 'E' := by
      cases power.capital <;> decide
    rw [chars, Decimal.readExponent?, if_pos letter, readPower?_chars]

end Power

/-- The parts of a decimal text, with a digit somewhere before the power. A fraction stands after a
point, and may be without digits. -/
structure Spelling where
  sign : Sign
  whole : List Char
  fraction : Option (List Char)
  power : Option Power
  isDigit_whole : whole.all Char.isDigit = true
  isDigit_fraction : (fraction.getD []).all Char.isDigit = true
  digits_ne_nil : whole ++ fraction.getD [] ≠ []

namespace Spelling

def fractionChars : Option (List Char) → List Char
  | none => []
  | some digits => '.' :: digits

def chars (n : Spelling) : List Char :=
  n.sign.chars ++ (n.whole ++ (fractionChars n.fraction ++ Power.chars n.power))

/-- The decimal that the parts spell. -/
def decimal (n : Spelling) : Decimal :=
  let fraction := n.fraction.getD []
  ⟨n.sign.negative, ofDigits (n.whole ++ fraction), Power.value n.power - fraction.length⟩

variable (n : Spelling)

theorem not_isDigit_power : ∀ c ∈ (Power.chars n.power).head?, c.isDigit = false := by
  intro c first
  obtain rfl | rfl := Power.chars_head n.power c first <;> rfl

theorem fraction_head : ∀ c ∈ (fractionChars n.fraction ++ Power.chars n.power).head?,
    c = '.' ∨ c = 'e' ∨ c = 'E' := by
  intro c first
  cases shape : n.fraction with
  | none =>
    rw [shape] at first
    exact .inr (Power.chars_head n.power c first)
  | some digits =>
    rw [shape] at first
    exact .inl (Option.some.inj first).symm

theorem not_isDigit_fraction :
    ∀ c ∈ (fractionChars n.fraction ++ Power.chars n.power).head?, c.isDigit = false := by
  intro c first
  obtain rfl | rfl | rfl := n.fraction_head c first <;> rfl

/-- After the sign stands a digit or the point. -/
theorem unsigned : ∀ c ∈ (n.whole ++ (fractionChars n.fraction ++ Power.chars n.power)).head?,
    c ≠ '-' ∧ c ≠ '+' := by
  intro c first
  cases shape : n.whole with
  | nil =>
    rw [shape] at first
    obtain rfl | rfl | rfl := n.fraction_head c first <;> decide
  | cons d rest =>
    rw [shape] at first
    obtain rfl : d = c := Option.some.inj first
    have digit := List.all_eq_true.mp n.isDigit_whole d (shape ▸ List.mem_cons_self)
    exact ⟨ne_of_isDigit digit rfl, ne_of_isDigit digit rfl⟩

theorem span_whole :
    (n.whole ++ (fractionChars n.fraction ++ Power.chars n.power)).span Char.isDigit =
      (n.whole, fractionChars n.fraction ++ Power.chars n.power) :=
  span_isDigit n.isDigit_whole n.not_isDigit_fraction

theorem readFraction_chars :
    Decimal.readFraction (fractionChars n.fraction ++ Power.chars n.power) =
      (n.fraction.getD [], Power.chars n.power) := by
  have digits := n.isDigit_fraction
  cases shape : n.fraction with
  | some fraction =>
    rw [shape] at digits
    exact span_isDigit digits n.not_isDigit_power
  | none =>
    show Decimal.readFraction (Power.chars n.power) = _
    rw [Decimal.readFraction.eq_def]
    split
    case h_1 point =>
      obtain first | first := Power.chars_head n.power '.' (by rw [point]; rfl)
      · exact absurd first (by decide)
      · exact absurd first (by decide)
    case h_2 => rfl

/-- The text is read as what its parts spell. -/
theorem read?_chars : Decimal.read? n.chars = some n.decimal := by
  have filled : (n.whole.isEmpty && (n.fraction.getD []).isEmpty) = false := by
    simpa using n.digits_ne_nil
  simp only [chars, Decimal.read?, Sign.readSign_chars _ n.unsigned, Decimal.readUnsigned?,
    span_whole, readFraction_chars, Power.readExponent?_chars, filled, decimal]
  rfl

end Spelling
end MatchTree
