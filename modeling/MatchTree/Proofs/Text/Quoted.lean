import Mathlib.Data.Nat.Digits.Defs
import MatchTree.Proofs.Text.Delimited
import MatchTree.Text.Quoted

/-!
Quoted text can be read back, whatever follows it.

No escape begins another and none begins with the quote, so the end of a quoted text is where its
first bare quote stands, and the characters before it are known.
-/

set_option autoImplicit false
namespace MatchTree

/-! ## Escapes by number -/

theorem digitChar_inj : ∀ d < 16, ∀ e < 16, Nat.digitChar d = Nat.digitChar e → d = e := by
  decide

theorem hexDigits_of_lt {n : Nat} (small : n < 16) : hexDigits n = [n.digitChar] :=
  Nat.toDigits_of_lt_base small

theorem hexDigits_of_le {n : Nat} (large : 16 ≤ n) :
    hexDigits n = hexDigits (n / 16) ++ [(n % 16).digitChar] :=
  Nat.toDigits_of_base_le (by decide) large

theorem hexDigits_ne_nil (n : Nat) : hexDigits n ≠ [] := Nat.toDigits_ne_nil

theorem hexDigits_inj {m n : Nat} (same : hexDigits m = hexDigits n) : m = n := by
  induction m using Nat.strongRecOn generalizing n with
  | _ m ih =>
    obtain small | large := Nat.lt_or_ge m 16 <;> obtain small' | large' := Nat.lt_or_ge n 16
    · rw [hexDigits_of_lt small, hexDigits_of_lt small'] at same
      exact digitChar_inj m small n small' (List.cons.inj same).1
    · -- one digit is not two
      rw [hexDigits_of_lt small, hexDigits_of_le large', ← List.nil_append [m.digitChar]] at same
      exact absurd (List.append_inj' same rfl).1.symm (hexDigits_ne_nil _)
    · rw [hexDigits_of_le large, hexDigits_of_lt small', ← List.nil_append [n.digitChar]] at same
      exact absurd (List.append_inj' same rfl).1 (hexDigits_ne_nil _)
    · rw [hexDigits_of_le large, hexDigits_of_le large'] at same
      obtain ⟨front, last⟩ := List.append_inj' same rfl
      have quotient := ih (m / 16) (by omega) front
      have remainder := digitChar_inj (m % 16) (Nat.mod_lt _ (by decide)) (n % 16)
        (Nat.mod_lt _ (by decide)) (List.cons.inj last).1
      omega

theorem exists_digitChar_of_mem_hexDigits {n : Nat} {c : Char} (member : c ∈ hexDigits n) :
    ∃ d < 16, c = Nat.digitChar d := by
  induction n using Nat.strongRecOn with
  | _ n ih =>
    obtain small | large := Nat.lt_or_ge n 16
    · rw [hexDigits_of_lt small] at member
      exact ⟨n, small, List.mem_singleton.mp member⟩
    · rw [hexDigits_of_le large] at member
      obtain front | last := List.mem_append.mp member
      · exact ih (n / 16) (by omega) front
      · exact ⟨_, Nat.mod_lt _ (by decide), List.mem_singleton.mp last⟩

theorem mem_hexDigits {n : Nat} {c : Char} (member : c ∈ hexDigits n) : c ≠ '\x7d' := by
  have digit : ∀ d < 16, Nat.digitChar d ≠ '\x7d' := by decide
  obtain ⟨d, small, rfl⟩ := exists_digitChar_of_mem_hexDigits member
  exact digit d small

theorem codeEscape_append_inj {c d : Char} {rest rest' : List Char}
    (same : codeEscape c ++ rest = codeEscape d ++ rest') : c = d ∧ rest = rest' := by
  have digits : hexDigits c.toNat ++ '\x7d' :: rest = hexDigits d.toNat ++ '\x7d' :: rest' := by
    simpa [codeEscape] using same
  have inside {n : Nat} : ∀ c ∈ hexDigits n, (c != '\x7d') = true :=
    fun c member => bne_iff_ne.mpr (mem_hexDigits member)
  have stops {rest : List Char} : ∀ c ∈ ('\x7d' :: rest).head?, (c != '\x7d') = false := by
    rintro _ ⟨⟩
    rfl
  obtain ⟨code, after⟩ := append_inj_of_stops inside inside stops stops digits
  exact ⟨Char.toNat_inj.mp (hexDigits_inj code), (List.cons.inj after).2⟩

/-! ## Characters -/

/-- What an escape by a letter stands for. -/
def unescape (letter : Char) : Char :=
  if letter = '0' then '\x00'
  else if letter = 't' then '\t'
  else if letter = 'n' then '\n'
  else if letter = 'r' then '\r'
  else letter

/-- A character stands for itself, or is escaped by a letter or by its number. -/
theorem quoteChar_cases (c : Char) :
    (quoteChar c = [c] ∧ c ≠ '\\' ∧ c ≠ '"') ∨
      (∃ letter, quoteChar c = ['\\', letter] ∧ letter ≠ 'u' ∧ unescape letter = c) ∨
      quoteChar c = codeEscape c := by
  rw [quoteChar]
  split
  case isTrue mark => obtain rfl | rfl := mark <;> exact .inr (.inl ⟨_, rfl, by decide, by decide⟩)
  case isFalse other =>
    obtain ⟨quote, backslash⟩ := not_or.mp other
    repeat' split
    case isFalse.isFalse.isFalse.isFalse.isTrue => exact .inr (.inr rfl)
    case isFalse.isFalse.isFalse.isFalse.isFalse => exact .inl ⟨rfl, backslash, quote⟩
    all_goals subst c; exact .inr (.inl ⟨_, rfl, by decide, by decide⟩)

theorem quoteChar_append_inj {c d : Char} {rest rest' : List Char}
    (same : quoteChar c ++ rest = quoteChar d ++ rest') : c = d ∧ rest = rest' := by
  -- a backslash begins an escape, and after it `u` begins one by number
  obtain ⟨plain, no, _⟩ | ⟨letter, escaped, known, stands⟩ | code := quoteChar_cases c <;>
    obtain ⟨plain', no', _⟩ | ⟨letter', escaped', known', stands'⟩ | code' := quoteChar_cases d
  · rw [plain, plain'] at same
    exact List.cons.inj same
  · rw [plain, escaped'] at same
    exact absurd (List.cons.inj same).1 no
  · rw [plain, code'] at same
    exact absurd (List.cons.inj same).1 no
  · rw [escaped, plain'] at same
    exact absurd (List.cons.inj same).1.symm no'
  · rw [escaped, escaped'] at same
    obtain ⟨rfl, after⟩ := List.cons.inj (List.cons.inj same).2
    exact ⟨stands.symm.trans stands', after⟩
  · rw [escaped, code'] at same
    exact absurd (List.cons.inj (List.cons.inj same).2).1 known
  · rw [code, plain'] at same
    exact absurd (List.cons.inj same).1.symm no'
  · rw [code, escaped'] at same
    exact absurd (List.cons.inj (List.cons.inj same).2).1.symm known'
  · rw [code, code'] at same
    exact codeEscape_append_inj same

theorem quoteChar_head (c : Char) (rest : List Char) : (quoteChar c ++ rest).head? ≠ some '"' := by
  obtain ⟨plain, _, no⟩ | ⟨letter, escaped, _⟩ | code := quoteChar_cases c
  · rw [plain]
    exact fun first => no (Option.some.inj first)
  · rw [escaped]
    exact fun first => absurd (Option.some.inj first) (by decide)
  · rw [code]
    exact fun first => absurd (Option.some.inj first) (by decide)

/-- A quoted text ends with its own quote. -/
theorem quoteChars_append_inj {text text' rest rest' : List Char}
    (same : quoteChars text ++ rest = quoteChars text' ++ rest') : text = text' ∧ rest = rest' := by
  have inner : text.flatMap quoteChar ++ '"' :: rest = text'.flatMap quoteChar ++ '"' :: rest' := by
    simpa [quoteChars] using same
  have apart : ∀ c ∈ text, ∀ d ∈ text', ToldApart (fun _ => True) quoteChar Eq c d :=
    fun c _ d _ rest rest' _ _ same => quoteChar_append_inj same
  obtain ⟨equal, after⟩ :=
    flatMap_append_inj quoteChar_head (fun _ _ => trivial) (fun _ => trivial) apart inner
  exact ⟨List.forall₂_eq_eq_eq ▸ equal, after⟩

end MatchTree
