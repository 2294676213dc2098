import MatchTree.Proofs.Text.Utf8
import MatchTree.Zone.Offset

/-!
Offsets from UTC by their written forms.

The verdict on a text looks at numbers of bytes, at a single byte and at a cut. Where all that is
left besides one colon are digits, bytes are characters; so the byte that is read and the cut that
is made are always there, and what is accepted has one of the three forms.
-/

set_option autoImplicit false
namespace MatchTree.Zone
open MatchTree.Substring

/-- The forms `HH`, `HHMM` and `HH:MM`, and the hours and minutes that their digits spell. -/
inductive Clock : List Char → (hours minutes : Nat) → Prop
  | hours {a b : Char} (digits : [a, b].all Char.isDigit = true) :
    Clock [a, b] (ofDigits [a, b]) 0
  | joined {a b c d : Char} (digits : [a, b, c, d].all Char.isDigit = true) :
    Clock [a, b, c, d] (ofDigits [a, b]) (ofDigits [c, d])
  | parted {a b c d : Char} (digits : [a, b, c, d].all Char.isDigit = true) :
    Clock [a, b, ':', c, d] (ofDigits [a, b]) (ofDigits [c, d])

/-- Full minutes within the hour, and no more than fourteen hours in all. -/
def InRange (hours minutes : Nat) : Prop := minutes < 60 ∧ 60 * hours + minutes ≤ 840

def IsTime (text : List Char) : Prop :=
  ∃ hours minutes, Clock text hours minutes ∧ InRange hours minutes

/-- `Z`, or a sign and a time of one of the three forms. -/
def IsOffset (text : List Char) : Prop :=
  text = ['Z'] ∨ ∃ sign rest, text = sign :: rest ∧ (sign = '+' ∨ sign = '-') ∧ IsTime rest

/-- The digits of a time without a colon, the first two of them for the hours. -/
def IsDigitTime (text : List Char) : Prop :=
  text.all Char.isDigit = true ∧ InRange (ofDigits (text.take 2)) (ofDigits (text.drop 2))

/-- There is a verdict, and it says whether something holds. -/
def Decides (verdict : Option Bool) (holds : Prop) : Prop :=
  ∃ b, verdict = some b ∧ (b = true ↔ holds)

theorem Decides.congr {verdict : Option Bool} {holds holds' : Prop}
    (decides : Decides verdict holds) (same : holds ↔ holds') : Decides verdict holds' :=
  decides.imp fun _ ⟨found, holds⟩ => ⟨found, holds.trans same⟩

theorem decides_false {holds : Prop} (not : ¬ holds) : Decides (some false) holds :=
  ⟨false, rfl, iff_of_false Bool.false_ne_true not⟩

/-! ## Digits -/

theorem all_isDigitByte (text : List Char) :
    (utf8 text).all isDigitByte = text.all Char.isDigit := by
  have alone (byte : UInt8) (digit : isDigitByte byte = true) : byte.toNat < 128 := by
    simp only [isDigitByte, Bool.and_eq_true, decide_eq_true_eq, UInt8.le_iff_toNat_le] at digit
    exact Nat.lt_of_le_of_lt digit.2 (by decide)
  rw [all_utf8 alone]
  refine List.all_congr rfl fun c => ?_
  by_cases ascii : IsAscii c
  · simp only [isDigitByte, ascii, UInt8.le_iff_toNat_le, toNat_byte ascii, Char.isDigit,
      decide_true, Bool.true_and, UInt32.le_iff_toNat_le, ge_iff_le]
    rfl
  · have other : c.isDigit = false := Bool.eq_false_iff.mpr (mt isAscii_of_isDigit ascii)
    rw [other, decide_eq_false ascii, Bool.false_and]

theorem utf8Length_of_digits {text : List Char} (digits : text.all Char.isDigit = true) :
    utf8Length text = text.length :=
  utf8Length_of_isAscii fun c member => isAscii_of_isDigit (List.all_eq_true.mp digits c member)

theorem numberOrLargest_of_digits {digits : List Char} (nonempty : digits ≠ [])
    (all : digits.all Char.isDigit = true) :
    numberOrLargest digits = min (ofDigits digits) (2 ^ 32 - 1) := by
  simp [numberOrLargest, nonempty, all]

/-- Two bytes are enough for the cut behind the hours. -/
theorem clockVerdict?_decides {digits : List Char} (enough : 2 ≤ utf8Length digits) :
    Decides (clockVerdict? digits) (IsDigitTime digits) := by
  rw [clockVerdict?, all_isDigitByte]
  cases all : digits.all Char.isDigit with
  | false => exact decides_false (by simp [IsDigitTime, all])
  | true =>
    rw [utf8Length_of_digits all] at enough
    obtain ⟨a, b, back, rfl⟩ : ∃ a b back, digits = a :: b :: back := by
      match digits, enough with
      | a :: b :: back, _ => exact ⟨a, b, back, rfl⟩
    have front : [a, b].all Char.isDigit = true := by simp_all
    have cut : cutAt? 2 (a :: b :: back) = some ([a, b], back) :=
      cutAt?_eq_some_iff.mpr ⟨rfl, utf8Length_of_digits front⟩
    refine ⟨_, by rw [if_pos rfl, cut]; rfl, ?_⟩
    have minutes : (if back.isEmpty then 0 else numberOrLargest back) =
        min (ofDigits back) (2 ^ 32 - 1) := by
      cases back with
      | nil => rfl
      | cons c rest => exact numberOrLargest_of_digits (List.cons_ne_nil c rest) (by simp_all)
    rw [minutes, numberOrLargest_of_digits (List.cons_ne_nil a [b]) front]
    simp only [IsDigitTime, all, InRange, true_and, List.take_succ_cons, List.take_zero,
      List.drop_succ_cons, List.drop_zero, Bool.and_eq_true, Bool.or_eq_true, decide_eq_true_eq,
      beq_iff_eq]
    generalize ofDigits [a, b] = hours
    generalize ofDigits back = minutes
    omega

/-! ## Forms -/

theorem Clock.isAscii {text : List Char} {hours minutes : Nat}
    (clock : Clock text hours minutes) : ∀ c ∈ text, IsAscii c := by
  have ascii {digits : List Char} (all : digits.all Char.isDigit = true) :
      ∀ c ∈ digits, IsAscii c := fun c member =>
    isAscii_of_isDigit (List.all_eq_true.mp all c member)
  cases clock with
  | hours digits | joined digits => exact ascii digits
  | parted digits =>
    have colon : IsAscii ':' := by decide
    simpa [colon] using ascii digits

theorem Clock.utf8Length_eq {text : List Char} {hours minutes : Nat}
    (clock : Clock text hours minutes) : utf8Length text = text.length :=
  utf8Length_of_isAscii clock.isAscii

theorem Clock.third {text : List Char} {hours minutes : Nat} (clock : Clock text hours minutes)
    (count : utf8Length text = 5) : (utf8 text)[2]? = some 0x3A := by
  rw [clock.utf8Length_eq] at count
  rw [utf8_of_isAscii clock.isAscii]
  cases clock with
  | hours | joined => simp at count
  | parted => rfl

/-- Two or four bytes are a time if they are digits. -/
theorem isTime_undivided {text : List Char} (count : utf8Length text = 2 ∨ utf8Length text = 4) :
    IsDigitTime text ↔ IsTime text := by
  constructor
  · rintro ⟨digits, range⟩
    rw [utf8Length_of_digits digits] at count
    match text, count with
    | [a, b], _ => exact ⟨_, _, .hours digits, range⟩
    | [a, b, c, d], _ => exact ⟨_, _, .joined digits, range⟩
  · rintro ⟨hours, minutes, clock, range⟩
    have length := clock.utf8Length_eq
    cases clock with
    | hours digits | joined digits => exact ⟨digits, range⟩
    | parted => simp [length] at count

/-- A byte that is a colon is the character, if the others are digits. -/
theorem third_of_byte {text : List Char} (digits : (text.erase ':').all Char.isDigit = true)
    (third : (utf8 text)[2]? = some 0x3A) : text[2]? = some ':' := by
  have colon : IsAscii ':' := by decide
  have ascii : ∀ c ∈ text, IsAscii c := by
    intro c member
    by_cases same : c = ':'
    · exact same ▸ colon
    · have kept := (List.mem_erase_of_ne same).mpr member
      exact isAscii_of_isDigit (List.all_eq_true.mp digits c kept)
  rw [utf8_of_isAscii ascii, List.getElem?_map, Option.map_eq_some_iff] at third
  obtain ⟨c, here, byte⟩ := third
  have same : c.toNat = ':'.toNat := by
    rw [← toNat_byte (ascii c (List.mem_of_getElem? here)), byte]
    rfl
  rw [here, Char.toNat_inj.mp same]

/-- Of five bytes the third parts two digits from two if it is a colon and the others are digits. -/
theorem isTime_divided {text : List Char} (count : utf8Length text = 5)
    (third : (utf8 text)[2]? = some 0x3A) : IsDigitTime (text.erase ':') ↔ IsTime text := by
  have other {c : Char} (digit : c.isDigit = true) : c ≠ ':' := by
    rintro rfl
    contradiction
  constructor
  · rintro ⟨digits, range⟩
    have here := third_of_byte digits third
    obtain ⟨front, back, before, rfl, erased⟩ :=
      List.exists_erase_eq (List.mem_of_getElem? here)
    rw [erased] at digits range
    have all := List.all_eq_true.mp digits
    have place : front.length = 2 := by
      obtain few | exact | many := Nat.lt_trichotomy front.length 2
      · -- then a digit behind the colon would stand in the third place
        obtain ⟨k, gap⟩ : ∃ k, 2 - front.length = k + 1 := ⟨1 - front.length, by omega⟩
        rw [List.getElem?_append_right (by omega), gap, List.getElem?_cons_succ] at here
        have digit := all _ (List.mem_append_right front (List.mem_of_getElem? here))
        exact absurd rfl (other digit)
      · exact exact
      · rw [List.getElem?_append_left many] at here
        exact absurd (List.mem_of_getElem? here) before
    have rest : back.length = 2 := by
      have colon : utf8Length (':' :: back) = 1 + utf8Length back := rfl
      rw [List.all_append, Bool.and_eq_true] at digits
      rw [utf8Length_append, colon, utf8Length_of_digits digits.1,
        utf8Length_of_digits digits.2] at count
      omega
    match front, back, place, rest with
    | [a, b], [c, d], _, _ => exact ⟨_, _, .parted digits, range⟩
  · rintro ⟨hours, minutes, clock, range⟩
    have length := clock.utf8Length_eq
    cases clock with
    | hours | joined => simp [length] at count
    | @parted a b c d digits =>
      have rest : [a, b, ':', c, d].erase ':' = [a, b, c, d] := by
        have all := List.all_eq_true.mp digits
        have first := other (all a (by simp))
        have second := other (all b (by simp))
        simp [first, second]
      rw [rest]
      exact ⟨digits, range⟩

/-! ## Verdicts -/

theorem utf8Length_erase_colon (text : List Char) :
    utf8Length text ≤ utf8Length (text.erase ':') + 1 := by
  by_cases colon : ':' ∈ text
  · obtain ⟨front, back, _, rfl, erased⟩ := List.exists_erase_eq colon
    have one : utf8Length (':' :: back) = 1 + utf8Length back := rfl
    rw [erased, utf8Length_append, utf8Length_append, one]
    omega
  · rw [List.erase_of_not_mem colon]
    omega

theorem signedVerdict?_decides (text : List Char) :
    Decides (signedVerdict? text) (IsTime text) := by
  rw [signedVerdict?]
  split
  case h_1 count => exact (clockVerdict?_decides (by omega)).congr (isTime_undivided (.inl count))
  case h_2 count => exact (clockVerdict?_decides (by omega)).congr (isTime_undivided (.inr count))
  case h_3 count =>
    obtain ⟨byte, found⟩ : ∃ byte, (utf8 text)[2]? = some byte :=
      ⟨_, List.getElem?_eq_getElem (by rw [length_utf8]; omega)⟩
    rw [found]
    show Decides (if byte = 0x3A then _ else _) _
    have enough := utf8Length_erase_colon text
    split
    case isTrue colon =>
      exact (clockVerdict?_decides (by omega)).congr (isTime_divided count (colon ▸ found))
    case isFalse other =>
      refine decides_false fun ⟨hours, minutes, clock, _⟩ => other ?_
      exact Option.some.inj (found.symm.trans (clock.third count))
  case h_4 two four five =>
    refine decides_false fun ⟨hours, minutes, clock, _⟩ => ?_
    have length := clock.utf8Length_eq
    cases clock <;> contradiction

theorem offsetVerdict?_decides (text : List Char) :
    Decides (offsetVerdict? text) (IsOffset text) := by
  have signed {sign : Char} (known : sign = '+' ∨ sign = '-') (rest : List Char) :
      IsTime rest ↔ IsOffset (sign :: rest) := by
    constructor
    · exact fun time => .inr ⟨sign, rest, rfl, known, time⟩
    · rintro (zulu | ⟨_, _, same, _, time⟩)
      · rcases known with rfl | rfl <;> simp at zulu
      · obtain ⟨rfl, rfl⟩ := List.cons.inj same
        exact time
  rw [offsetVerdict?.eq_def]
  split
  case h_1 => exact ⟨true, rfl, iff_of_true rfl (.inl rfl)⟩
  case h_2 rest => exact (signedVerdict?_decides rest).congr (signed (.inl rfl) rest)
  case h_3 rest => exact (signedVerdict?_decides rest).congr (signed (.inr rfl) rest)
  case h_4 zulu plus minus =>
    refine decides_false ?_
    rintro (same | ⟨sign, rest, same, rfl | rfl, _⟩)
    · exact zulu same
    · exact plus rest same
    · exact minus rest same

/-- On every text there is a verdict: whether it is `Z`, or a sign and hours and perhaps minutes in
one of the forms `HH`, `HHMM` and `HH:MM`, with fewer than sixty minutes and at most fourteen hours
in all. -/
theorem isOffset_exact (s : String) :
    (∃ verdict, offsetVerdict? s.toList = some verdict) ∧
      (isOffset s.toList = true ↔ IsOffset s.toList) := by
  obtain ⟨verdict, found, decides⟩ := offsetVerdict?_decides s.toList
  refine ⟨⟨verdict, found⟩, ?_⟩
  rw [isOffset, found, ← decides]
  cases verdict <;> decide

-- Five bytes with a colon in the third place, but the first colon stands before it.
example : offsetVerdict? "+:1:23".toList = some false ∧ isOffset "-12:45".toList = true := by decide

end MatchTree.Zone
