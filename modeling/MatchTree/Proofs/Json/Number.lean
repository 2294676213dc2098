import MatchTree.Proofs.Number.Reread
import MatchTree.Proofs.Json.Numeral

/-!
Numbers of a document: an integer is read as what was written, and a finite double as what is made
of the decimal that was written for it.
-/

set_option autoImplicit false
namespace MatchTree.Json
namespace Numeral

/-- A numeral with a point or an exponent is a double. -/
theorem number?_chars_of_not_integral {n : Numeral} (fractional : ¬ n.Integral)
    (fits : n.decimal.coefficient < 2 ^ 64) {x : Finite} (made : n.decimal.scaled? = some x) :
    number? n.chars = some (.float (.finite x)) := by
  have chars : n.chars.all (fun c => c.isDigit || c == '-') = false :=
    Bool.eq_false_iff.mpr (mt n.all_integral.mp fractional)
  simp only [number?, n.scan?_chars fits, Option.bind_eq_bind, Option.bind_some]
  rw [if_neg (by simp [chars]), made, Option.map_some]

/-- An integer is written without point and exponent. -/
def ofInt (i : Int) : Numeral where
  negative := i < 0
  whole := Nat.toDigits 10 i.natAbs
  fraction := []
  power := none
  isWhole_whole := isWhole_toDigits _
  isDigit_fraction := rfl
  digitsOnly_power := fun _ none => nomatch none

theorem chars_ofInt (i : Int) : (ofInt i).chars = intChars i := by
  by_cases negative : i < 0 <;> simp [chars, ofInt, intChars, tailChars, powerChars, negative]

theorem decimal_ofInt (i : Int) : (ofInt i).decimal = ⟨i < 0, i.natAbs, 0⟩ := by
  simp [decimal, ofInt, powerValue, ofDigits_toDigits]

end Numeral

theorem int64?_toInt (i : Int64) : int64? i.toInt = some i := by
  rw [int64?, if_pos ⟨i.le_toInt, i.toInt_lt⟩, Int64.ofInt_toInt]

/-- Every integer of 64 bits is read as itself. -/
theorem number?_intChars (i : Int64) : number? (intChars i.toInt) = some (.int i) := by
  have integral : (intChars i.toInt).all (fun c => c.isDigit || c == '-') = true := by
    rw [← Numeral.chars_ofInt, Numeral.all_integral]
    exact ⟨rfl, rfl⟩
  have fits : i.toInt.natAbs < 2 ^ 64 := by
    have := i.le_toInt
    have := i.toInt_lt
    omega
  have read : scan? (intChars i.toInt) = some ⟨i.toInt < 0, i.toInt.natAbs, 0⟩ := by
    rw [← Numeral.chars_ofInt, Numeral.scan?_chars, Numeral.decimal_ofInt]
    rw [Numeral.decimal_ofInt]
    exact fits
  have signed : (!(decide (i.toInt < 0) && i.toInt.natAbs == 0)) = true := by
    simp only [Bool.not_and, Bool.or_eq_true, Bool.not_eq_true', decide_eq_false_iff_not,
      beq_eq_false_iff_ne]
    omega
  have size : (if decide (i.toInt < 0) = true then -(i.toInt.natAbs : Int) else i.toInt.natAbs) =
      i.toInt := by
    simp only [decide_eq_true_eq]
    omega
  simp only [number?, read, integral, signed, size, int64?_toInt, beq_self_eq_true, Bool.and_self,
    if_true, Option.bind_eq_bind, Option.bind_some]

/-- The text is a numeral with a point or an exponent and spells the decimal. -/
def Writes (d : Decimal) (text : List Char) : Prop :=
  ∃ n : Numeral, n.chars = text ∧ ¬ n.Integral ∧ n.decimal = d

theorem isDigit_replicate_zero (k : Nat) : (List.replicate k '0').all Char.isDigit = true :=
  List.all_eq_true.mpr fun _ member => List.eq_of_mem_replicate member ▸ rfl

theorem toDigits_head_of_length {n : Nat} (many : 1 < (Nat.toDigits 10 n).length) :
    ∃ c rest, Nat.toDigits 10 n = c :: rest ∧ c ≠ '0' := by
  refine toDigits_head (Nat.pos_of_ne_zero fun zero => ?_)
  simp [zero] at many

variable {d : Decimal}

theorem writes_point (negative : Bool) {whole fraction : List Char} (proper : isWhole whole = true)
    (digits : fraction.all Char.isDigit = true) (nonempty : fraction ≠ []) :
    Writes ⟨negative, ofDigits (whole ++ fraction), -fraction.length⟩
      ((if negative then ['-'] else []) ++ (whole ++ '.' :: fraction)) := by
  refine ⟨⟨negative, whole, fraction, none, proper, digits, fun _ none => nomatch none⟩,
    ?_, fun integral => nonempty integral.1, ?_⟩
  · simp [Numeral.chars, Numeral.tailChars, Numeral.powerChars, nonempty]
  · simp [Numeral.decimal, Numeral.powerValue]

/-- Without a fraction the size is a whole number. -/
theorem isWhole_plainSize {up : Nat} (size : d.exponent = up) : isWhole d.plainSize = true := by
  obtain ⟨negative, coefficient, exponent⟩ := d
  obtain rfl : exponent = up := size
  rw [Decimal.plainSize]
  by_cases zero : coefficient = 0
  · simp only [zero, if_true]
    rfl
  · simp only [zero, if_false]
    have all : (Nat.toDigits 10 coefficient ++ List.replicate up '0').all Char.isDigit = true := by
      rw [List.all_append, all_isDigit_toDigits, isDigit_replicate_zero, Bool.and_self]
    obtain ⟨c, rest, shape, nonzero⟩ := toDigits_head (Nat.pos_of_ne_zero zero)
    rw [shape] at all ⊢
    exact isWhole_of_head nonzero all

/-- The zeros at its end stand for the power of ten. -/
theorem ofDigits_plainSize {up : Nat} (size : d.exponent = up) :
    ofDigits d.plainSize = d.coefficient * 10 ^ up := by
  obtain ⟨negative, coefficient, exponent⟩ := d
  obtain rfl : exponent = up := size
  rw [Decimal.plainSize]
  by_cases zero : coefficient = 0
  · simp only [zero, if_true, Nat.zero_mul]
    rfl
  · simp only [zero, if_false]
    rw [ofDigits_append, ofDigits_toDigits, ofDigits_replicate_zero, List.length_replicate,
      Nat.add_zero]

/-- Without a fraction the point is followed by a zero. -/
theorem writes_whole {up : Nat} (size : d.exponent = up) :
    Writes d.withPoint (d.signText ++ d.plainSize ++ ['.', '0']) := by
  have spelled : ofDigits (d.plainSize ++ ['0']) = d.coefficient * 10 ^ (up + 1) := by
    rw [ofDigits_append, ofDigits_plainSize size, Nat.pow_succ, Nat.mul_assoc]
    rfl
  have zero : ['0'].all Char.isDigit = true := rfl
  have written := writes_point d.negative (isWhole_plainSize size) zero (List.cons_ne_nil _ _)
  rw [spelled] at written
  rw [List.append_assoc, Decimal.withPoint, size, Int.toNat_natCast]
  exact written

/-- The length of a fraction says which power of ten the coefficient is multiplied by. -/
theorem writes_fraction {down : Nat} (size : d.exponent = .negSucc down) :
    Writes d (d.signText ++ d.plainSize) := by
  obtain ⟨negative, coefficient, exponent⟩ := d
  obtain rfl : exponent = .negSucc down := size
  have spelled := ofDigits_toDigits coefficient
  have all := all_isDigit_toDigits coefficient
  have nonempty := @Nat.toDigits_ne_nil coefficient 10
  have head := @toDigits_head_of_length coefficient
  simp only [Decimal.plainSize]
  generalize Nat.toDigits 10 coefficient = digits at *
  split
  case isTrue few =>
    have zeros := isDigit_replicate_zero (down + 1 - digits.length)
    have padding := ofDigits_replicate_zero (down + 1 - digits.length + 1)
    have length : (List.replicate (down + 1 - digits.length) '0' ++ digits).length = down + 1 := by
      rw [List.length_append, List.length_replicate]
      omega
    have digits : (List.replicate (down + 1 - digits.length) '0' ++ digits).all Char.isDigit =
        true := by
      rw [List.all_append, zeros, all, Bool.and_self]
    have whole : isWhole ['0'] = true := rfl
    have written := writes_point negative whole digits
      (List.append_ne_nil_of_right_ne_nil _ nonempty)
    rw [length, ← List.append_assoc, ← List.replicate_one, List.replicate_append_replicate,
      Nat.add_comm 1, ofDigits_append, padding, Nat.zero_mul, Nat.zero_add, spelled] at written
    exact written
  case isFalse many =>
    obtain ⟨c, rest, rfl, nonzero⟩ := head (by omega)
    obtain ⟨front, count⟩ : ∃ front, (c :: rest).length - (down + 1) = front + 1 :=
      Nat.exists_eq_add_one.mpr (by omega)
    have length : ((c :: rest).drop (front + 1)).length = down + 1 := by
      rw [List.length_drop]
      omega
    have joined := List.take_append_drop (front + 1) (c :: rest)
    rw [← joined, List.all_append, Bool.and_eq_true_iff] at all
    rw [count]
    have whole : isWhole ((c :: rest).take (front + 1)) = true := isWhole_of_head nonzero all.1
    have written := writes_point negative whole all.2 (List.ne_nil_of_length_pos (by omega))
    rw [length, joined, spelled] at written
    exact written

/-- The exponent counts from the first digit, after which the point stands. -/
theorem writes_scientific (nonzero : d.coefficient ≠ 0) :
    Writes d (d.signText ++ d.scientificSize) := by
  obtain ⟨negative, coefficient, exponent⟩ := d
  have spelled := ofDigits_toDigits coefficient
  have all := all_isDigit_toDigits coefficient
  obtain ⟨c, rest, shape, first⟩ := toDigits_head (Nat.pos_of_ne_zero nonzero)
  simp only [Decimal.scientificSize]
  rw [shape] at spelled all ⊢
  rw [List.all_cons, Bool.and_eq_true_iff] at all
  generalize power : exponent + (c :: rest).length - 1 = place
  have size : digitsOnly (Nat.toDigits 10 place.natAbs) = true := by
    simp [digitsOnly, Nat.toDigits_ne_nil, all_isDigit_toDigits]
  refine ⟨⟨negative, [c], rest, some (place < 0, Nat.toDigits 10 place.natAbs),
    isWhole_of_head first (by simp [all.1]), all.2, ?_⟩, ?_, ?_, ?_⟩
  · exact fun part member => Option.some.inj member ▸ size
  · simp [Numeral.chars, Numeral.tailChars, Numeral.powerChars, Decimal.signText]
  · exact fun integral => Option.some_ne_none _ integral.2
  · have value : Numeral.powerValue (some (place < 0, Nat.toDigits 10 place.natAbs)) = place := by
      simp only [Numeral.powerValue, ofDigits_toDigits, decide_eq_true_eq]
      omega
    have exact : place - rest.length = exponent := by
      rw [← power, List.length_cons]
      omega
    simp only [Numeral.decimal, List.singleton_append, spelled, value, exact]

/-- The text of a finite double spells the decimal that is written for it. -/
theorem writes_documentText (x : Finite) : Writes x.written x.documentText := by
  simp only [Finite.written, Finite.documentText]
  generalize x.shortest.strip = d
  by_cases plain : d.coefficient = 0 ∨ (-5 ≤ d.exponent + digitCount d.coefficient - 1 ∧
    d.exponent + digitCount d.coefficient - 1 ≤ 15)
  case neg =>
    rw [if_neg plain, if_neg fun both => plain both.1]
    exact writes_scientific fun zero => plain (.inl zero)
  case pos =>
    -- the point is followed by the fraction, or by a zero if there is none
    rw [if_pos plain]
    cases size : d.exponent with
    | ofNat up =>
      have whole : 0 ≤ Int.ofNat up := Int.natCast_nonneg up
      rw [size] at plain
      rw [if_pos whole, if_pos ⟨plain, whole⟩]
      exact writes_whole size
    | negSucc down =>
      have part : ¬ 0 ≤ Int.negSucc down := Int.not_le.mpr (Int.negSucc_lt_zero down)
      rw [if_neg part, if_neg fun both => part both.2, List.append_nil]
      exact writes_fraction size

/-- The text of a finite double is read as a double, not as an integer. -/
theorem documentText_numeral (x : Finite) : ∃ n : Numeral, n.chars = x.documentText ∧
    number? x.documentText = some (.float (.finite x.reread)) := by
  obtain ⟨n, text, fractional, same⟩ := writes_documentText x
  have fits : n.decimal.coefficient < 2 ^ 64 := by
    rw [same]
    exact Nat.lt_of_le_of_lt x.written_coefficient_le (by decide)
  refine ⟨n, text, ?_⟩
  rw [← text]
  exact n.number?_chars_of_not_integral fractional fits (same ▸ x.scaled?_written)

end MatchTree.Json
