import Mathlib
import MatchTree.Text.Utf8

/-!
Bytes and cuts of a text.

A cut after a number of bytes is a cut between two characters, or there is none. Up to code point
127 a character is one byte, and no byte of another character is as small.
-/

set_option autoImplicit false
namespace MatchTree.Substring

@[simp] theorem utf8Length_cons (c : Char) (text : List Char) :
    utf8Length (c :: text) = c.utf8Size + utf8Length text := rfl

@[simp] theorem utf8Length_append (front back : List Char) :
    utf8Length (front ++ back) = utf8Length front + utf8Length back := by
  induction front with
  | nil => simp [utf8Length]
  | cons c rest ih => simp [ih, Nat.add_assoc]

@[simp] theorem utf8_cons (c : Char) (text : List Char) :
    utf8 (c :: text) = String.utf8EncodeChar c ++ utf8 text := List.flatMap_cons

theorem length_utf8 (text : List Char) : (utf8 text).length = utf8Length text := by
  induction text with
  | nil => rfl
  | cons c rest ih =>
    rw [utf8_cons, List.length_append, ih, String.length_utf8EncodeChar, utf8Length_cons]

/-! ## Cuts -/

/-- A text is cut where a front of it has that many bytes, and nowhere else. -/
theorem cutAt?_eq_some_iff {count : Nat} {text front back : List Char} :
    cutAt? count text = some (front, back) ↔ front ++ back = text ∧ utf8Length front = count := by
  fun_induction cutAt? count text generalizing front with
  | case1 text =>
    cases front with
    | nil => simp [utf8Length, eq_comm]
    | cons c rest => simp [Nat.ne_of_gt c.utf8Size_pos]
  | case2 count =>
    cases front with
    | nil => simp [utf8Length]
    | cons c rest => simp
  | case3 count c rest fits ih =>
    cases front with
    | nil => simp [utf8Length]
    | cons d front =>
      simp only [Option.map_eq_some_iff, Prod.exists, Prod.mk.injEq, List.cons.injEq,
        List.cons_append, utf8Length_cons]
      constructor
      · rintro ⟨front, back, cut, ⟨rfl, rfl⟩, rfl⟩
        obtain ⟨whole, length⟩ := ih.mp cut
        exact ⟨⟨rfl, whole⟩, by omega⟩
      · rintro ⟨⟨rfl, whole⟩, length⟩
        exact ⟨front, back, ih.mpr ⟨whole, by omega⟩, ⟨rfl, rfl⟩, rfl⟩
  | case4 count c rest beyond =>
    cases front with
    | nil => simp [utf8Length]
    | cons d front =>
      simp only [List.cons_append, List.cons.injEq, utf8Length_cons, reduceCtorEq, false_iff]
      rintro ⟨⟨rfl, _⟩, length⟩
      omega

theorem utf8Length_toList (s : String) : utf8Length s.toList = s.utf8ByteSize := by
  rw [← String.ofList_toList (s := s), String.utf8ByteSize_ofList, String.toList_ofList]
  induction s.toList with
  | nil => rfl
  | cons c rest ih => rw [utf8Length_cons, ih, String.utf8Len_cons, Nat.add_comm]

/-- The places to cut a text are its positions. -/
theorem isSome_cutAt?_iff {count : Nat} {s : String} :
    (cutAt? count s.toList).isSome = true ↔ String.Pos.Raw.IsValid s ⟨count⟩ := by
  rw [Option.isSome_iff_exists, String.Pos.Raw.isValid_iff_exists_append]
  simp only [Prod.exists, cutAt?_eq_some_iff, String.Pos.Raw.ext_iff, String.byteIdx_rawEndPos]
  constructor
  · rintro ⟨front, back, whole, rfl⟩
    refine ⟨.ofList front, .ofList back, ?_, ?_⟩
    · rw [← String.ofList_append, whole, String.ofList_toList]
    · rw [← utf8Length_toList, String.toList_ofList]
  · rintro ⟨front, back, rfl, rfl⟩
    exact ⟨front.toList, back.toList, String.toList_append.symm, utf8Length_toList front⟩

-- The second byte of a character is no place to cut.
example : cutAt? 2 ['é', 'a'] = some (['é'], ['a']) ∧ cutAt? 1 ['é', 'a'] = none := by decide

/-! ## Single bytes -/

/-- The character is one of the first 128, those of a single byte. -/
def IsAscii (c : Char) : Prop := c.toNat < 128

instance (c : Char) : Decidable (IsAscii c) := inferInstanceAs (Decidable (_ < _))

theorem isAscii_of_isAlphanum {c : Char} (alphanum : c.isAlphanum = true) : IsAscii c := by
  simp only [Char.isAlphanum, Char.isAlpha, Char.isUpper, Char.isLower, Char.isDigit,
    Bool.or_eq_true, Bool.and_eq_true, decide_eq_true_eq, UInt32.le_iff_toNat_le] at alphanum
  show c.val.toNat < 128
  grind

theorem isAscii_of_isDigit {c : Char} (digit : c.isDigit = true) : IsAscii c :=
  isAscii_of_isAlphanum (by rw [Char.isAlphanum, digit, Bool.or_true])

/-- Such a character is known by its byte. -/
theorem toNat_byte {c : Char} (ascii : IsAscii c) : (UInt8.ofNat c.toNat).toNat = c.toNat := by
  rw [UInt8.toNat_ofNat', Nat.mod_eq_of_lt (Nat.lt_trans ascii (by decide))]

theorem utf8Size_of_isAscii {c : Char} (ascii : IsAscii c) : c.utf8Size = 1 :=
  Char.utf8Size_eq_one_iff.mpr (UInt32.le_iff_toNat_le.mpr (Nat.le_of_lt_succ ascii))

/-- Such a text has as many bytes as characters. -/
theorem utf8Length_of_isAscii {text : List Char} (ascii : ∀ c ∈ text, IsAscii c) :
    utf8Length text = text.length := by
  induction text with
  | nil => rfl
  | cons c rest ih =>
    obtain ⟨here, later⟩ := List.forall_mem_cons.mp ascii
    rw [utf8Length_cons, utf8Size_of_isAscii here, ih later, List.length_cons, Nat.add_comm]

/-- A character is one byte with its own number, or its first byte is none that stands alone. -/
theorem utf8EncodeChar_cases (c : Char) :
    (IsAscii c ∧ String.utf8EncodeChar c = [UInt8.ofNat c.toNat]) ∨
      (¬ IsAscii c ∧ ∃ byte rest, String.utf8EncodeChar c = byte :: rest ∧ 128 ≤ byte.toNat) := by
  have top : c.toNat < 1114112 := by
    have := c.valid
    unfold UInt32.isValidChar Nat.isValidChar at this
    show c.val.toNat < 1114112
    omega
  by_cases ascii : IsAscii c
  · have small : c.toNat ≤ 127 := Nat.le_of_lt_succ ascii
    exact .inl ⟨ascii, by simp [String.utf8EncodeChar, small]⟩
  · have large : ¬ c.toNat ≤ 127 := fun le => ascii (Nat.lt_succ_of_le le)
    refine .inr ⟨ascii, ?_⟩
    simp only [String.utf8EncodeChar, Char.toNat_val, large, if_false]
    -- the first bytes of two, three and four begin at 192, 224 and 240
    repeat' split
    all_goals
      refine ⟨_, _, rfl, ?_⟩
      rw [UInt8.toNat_ofNat']
      omega

theorem utf8_of_isAscii {text : List Char} (ascii : ∀ c ∈ text, IsAscii c) :
    utf8 text = text.map fun c => UInt8.ofNat c.toNat := by
  induction text with
  | nil => rfl
  | cons c rest ih =>
    obtain ⟨here, later⟩ := List.forall_mem_cons.mp ascii
    obtain ⟨_, encoded⟩ | ⟨other, _⟩ := utf8EncodeChar_cases c
    · rw [utf8_cons, encoded, ih later, List.map_cons, List.singleton_append]
    · exact absurd here other

/-- Bytes that stand alone are the characters with their numbers. -/
theorem all_utf8 {holds : UInt8 → Bool} (alone : ∀ byte, holds byte = true → byte.toNat < 128)
    (text : List Char) :
    (utf8 text).all holds = text.all fun c => decide (IsAscii c) && holds (UInt8.ofNat c.toNat) := by
  induction text with
  | nil => rfl
  | cons c rest ih =>
    rw [utf8_cons, List.all_append, ih, List.all_cons]
    congr 1
    obtain ⟨ascii, encoded⟩ | ⟨other, byte, bytes, encoded, large⟩ := utf8EncodeChar_cases c
    · simp [encoded, ascii]
    · have refused : holds byte = false :=
        Bool.eq_false_iff.mpr fun held => Nat.not_lt.mpr large (alone byte held)
      simp [encoded, other, refused]

end MatchTree.Substring
