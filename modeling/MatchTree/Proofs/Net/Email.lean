import MatchTree.Net.Email
import MatchTree.Proofs.Text.Pieces
import MatchTree.Proofs.Text.Utf8

/-!
Email addresses by their grammar.

An address is looked at from outside: its last `@`, its first and last characters, dots next to each
other, and lengths in bytes. What passes is what the grammar builds from atoms and labels; all of it
is ASCII, so that bytes are characters, and no atom or label has an `@`.
-/

set_option autoImplicit false
namespace MatchTree.Email
open MatchTree.Substring

/-! ## Grammar -/

/-- What atoms are made of. -/
def IsAtomChar (c : Char) : Prop :=
  c.isAlphanum = true ∨ c ∈ "!#$%&'*+/=?^_\x60\x7b|\x7d~-".toList

structure IsAtom (text : List Char) : Prop where
  nonempty : text ≠ []
  chars : ∀ c ∈ text, IsAtomChar c

/-- A label has up to 63 letters, digits and hyphens, no hyphen at either end. -/
structure IsDomainLabel (text : List Char) : Prop where
  nonempty : 1 ≤ text.length
  length_le : text.length ≤ 63
  chars : ∀ c ∈ text, c.isAlphanum = true ∨ c = '-'
  start : text.head? ≠ some '-'
  finish : text.getLast? ≠ some '-'

/-- At least so many pieces of some form, joined by single dots. -/
def Dotted (proper : List Char → Prop) (least : Nat) (text : List Char) : Prop :=
  ∃ pieces, least ≤ pieces.length ∧ (∀ piece ∈ pieces, proper piece) ∧
    text = ['.'].intercalate pieces

structure IsLocal (text : List Char) : Prop where
  nonempty : 1 ≤ text.length
  length_le : text.length ≤ 64
  dotted : Dotted IsAtom 1 text

structure IsHost (text : List Char) : Prop where
  length_le : text.length ≤ 253
  dotted : Dotted IsDomainLabel 2 text

/-! ## Characters -/

theorem isAscii_of_isLocalChar {c : Char} (proper : isLocalChar c = true) : IsAscii c := by
  rw [isLocalChar, Bool.or_eq_true, List.contains_iff_mem] at proper
  have marks : specials.all (fun c => decide (IsAscii c)) = true := by decide
  refine proper.elim isAscii_of_isAlphanum fun special => ?_
  exact of_decide_eq_true (List.all_eq_true.mp marks c special)

/-- Apart from the dot, they are the characters of atoms. -/
theorem isLocalChar_iff {c : Char} : isLocalChar c = true ↔ c = '.' ∨ IsAtomChar c := by
  have marks : specials.erase '.' = "!#$%&'*+/=?^_\x60\x7b|\x7d~-".toList := by decide
  have dot : '.' ∈ specials := by decide
  rw [isLocalChar, IsAtomChar, ← marks, Bool.or_eq_true, List.contains_iff_mem]
  by_cases same : c = '.'
  · simp [same, dot]
  · simp [same, List.mem_erase_of_ne same]

theorem not_isAtomChar_dot : ¬ IsAtomChar '.' := by
  simp [IsAtomChar]

/-! ## Dots -/

theorem first_filled_iff (text : List Char) :
    (splitChars '.' text).head? ≠ some [] ↔ text ≠ [] ∧ text.head? ≠ some '.' := by
  cases text with
  | nil => simp [splitChars]
  | cons c rest =>
    by_cases same : c = '.'
    · simp [same, splitChars_cons_self]
    · obtain ⟨piece, pieces, _, split⟩ := splitChars_cons_of_ne same rest
      simp [split, same]

theorem filled_cons (pieces : List (List Char)) :
    (∀ piece ∈ pieces, piece ≠ []) ↔
      pieces.head? ≠ some [] ∧ ∀ piece ∈ pieces.tail, piece ≠ [] := by
  cases pieces <;> simp

/-- Of the pieces behind the first, an empty one stands between two dots or behind the last. -/
theorem later_filled_iff (text : List Char) :
    (∀ piece ∈ (splitChars '.' text).tail, piece ≠ []) ↔
      text.getLast? ≠ some '.' ∧ hasDoubleDot text = false := by
  induction text with
  | nil => simp [splitChars, hasDoubleDot]
  | cons c rest ih =>
    by_cases same : c = '.'
    · rw [same, splitChars_cons_self, List.tail_cons, filled_cons, first_filled_iff, ih]
      cases rest with
      | nil => simp
      | cons d rest =>
        by_cases next : d = '.'
        · simp [next, hasDoubleDot]
        · simp [next, hasDoubleDot]
    · obtain ⟨piece, pieces, found, split⟩ := splitChars_cons_of_ne same rest
      rw [found, List.tail_cons] at ih
      rw [split, List.tail_cons, ih]
      cases rest with
      | nil => simp [same, hasDoubleDot]
      | cons d rest => simp [same, hasDoubleDot]

/-- Where dots may stand. -/
theorem filled_iff (text : List Char) :
    (∀ piece ∈ splitChars '.' text, piece ≠ []) ↔ text ≠ [] ∧ text.head? ≠ some '.' ∧
      text.getLast? ≠ some '.' ∧ hasDoubleDot text = false := by
  rw [filled_cons, first_filled_iff, later_filled_iff, and_assoc]

/-! ## Local part and domain -/

theorem dotted_atoms_iff (text : List Char) :
    Dotted IsAtom 1 text ↔ (∀ piece ∈ splitChars '.' text, piece ≠ []) ∧
      ∀ c ∈ text, isLocalChar c = true := by
  have apart (piece : List Char) (atom : IsAtom piece) : '.' ∉ piece :=
    fun member => not_isAtomChar_dot (atom.chars '.' member)
  have chars : (∀ piece ∈ splitChars '.' text, ∀ c ∈ piece, IsAtomChar c) ↔
      ∀ c ∈ text, isLocalChar c = true := by
    rw [forall_splitChars_iff]
    simp only [isLocalChar_iff, Decidable.or_iff_not_imp_left]
  rw [Dotted, exists_intercalate_iff apart (Nat.le_refl 1), ← chars,
    and_iff_right (length_splitChars_pos '.' text)]
  constructor
  · exact fun atoms => ⟨fun piece member => (atoms piece member).nonempty,
      fun piece member => (atoms piece member).chars⟩
  · exact fun ⟨filled, chars⟩ piece member => ⟨filled piece member, chars piece member⟩

theorem isLocalPart_iff (text : List Char) : isLocalPart text = true ↔ IsLocal text := by
  simp only [isLocalPart, Bool.and_eq_true, Bool.not_eq_true', List.isEmpty_eq_false_iff,
    decide_eq_true_eq, bne_iff_ne, List.all_eq_true]
  constructor
  · rintro ⟨⟨⟨⟨⟨filled, bytes⟩, start⟩, finish⟩, single⟩, chars⟩
    rw [utf8Length_of_isAscii fun c member => isAscii_of_isLocalChar (chars c member)] at bytes
    refine ⟨List.length_pos_iff.mpr filled, bytes, (dotted_atoms_iff text).mpr ⟨?_, chars⟩⟩
    exact (filled_iff text).mpr ⟨filled, start, finish, single⟩
  · rintro ⟨_, length, dotted⟩
    obtain ⟨pieces, chars⟩ := (dotted_atoms_iff text).mp dotted
    obtain ⟨filled, start, finish, single⟩ := (filled_iff text).mp pieces
    rw [utf8Length_of_isAscii fun c member => isAscii_of_isLocalChar (chars c member)]
    exact ⟨⟨⟨⟨⟨filled, length⟩, start⟩, finish⟩, single⟩, chars⟩

theorem isAscii_of_isLabelChar {c : Char} (proper : c.isAlphanum = true ∨ c = '-') :
    IsAscii c := by
  obtain alphanum | rfl := proper
  · exact isAscii_of_isAlphanum alphanum
  · decide

theorem isLabel_iff (text : List Char) : isLabel text = true ↔ IsDomainLabel text := by
  simp only [isLabel, Bool.and_eq_true, Bool.not_eq_true', List.isEmpty_eq_false_iff,
    decide_eq_true_eq, bne_iff_ne, List.all_eq_true, Bool.or_eq_true, beq_iff_eq]
  constructor
  · rintro ⟨⟨⟨⟨filled, bytes⟩, start⟩, finish⟩, chars⟩
    rw [utf8Length_of_isAscii fun c member => isAscii_of_isLabelChar (chars c member)] at bytes
    exact ⟨List.length_pos_iff.mpr filled, bytes, chars, start, finish⟩
  · rintro ⟨filled, length, chars, start, finish⟩
    rw [utf8Length_of_isAscii fun c member => isAscii_of_isLabelChar (chars c member)]
    exact ⟨⟨⟨⟨List.length_pos_iff.mp filled, length⟩, start⟩, finish⟩, chars⟩

theorem dotted_labels_iff (text : List Char) :
    Dotted IsDomainLabel 2 text ↔
      2 ≤ (splitChars '.' text).length ∧ ∀ piece ∈ splitChars '.' text, IsDomainLabel piece := by
  refine exists_intercalate_iff (fun piece label member => ?_) (by decide)
  exact absurd (label.chars '.' member) (by decide)

theorem isLabelChar_of_dotted {text : List Char} (dotted : Dotted IsDomainLabel 2 text) :
    ∀ c ∈ text, c ≠ '.' → c.isAlphanum = true ∨ c = '-' := by
  have labels := ((dotted_labels_iff text).mp dotted).2
  exact forall_splitChars_iff.mp fun piece member => (labels piece member).chars

theorem isAscii_of_dotted {text : List Char} (dotted : Dotted IsDomainLabel 2 text) :
    ∀ c ∈ text, IsAscii c := by
  intro c member
  by_cases dot : c = '.'
  · rw [dot]
    decide
  · exact isAscii_of_isLabelChar (isLabelChar_of_dotted dotted c member dot)

theorem isDomain_iff (text : List Char) : isDomain text = true ↔ IsHost text := by
  simp only [isDomain, Bool.and_eq_true, decide_eq_true_eq, List.all_eq_true, isLabel_iff,
    and_assoc, ← dotted_labels_iff]
  constructor
  · rintro ⟨bytes, dotted⟩
    exact ⟨utf8Length_of_isAscii (isAscii_of_dotted dotted) ▸ bytes, dotted⟩
  · rintro ⟨length, dotted⟩
    exact ⟨utf8Length_of_isAscii (isAscii_of_dotted dotted) ▸ length, dotted⟩

theorem IsLocal.isLocalChar {text : List Char} (proper : IsLocal text) :
    ∀ c ∈ text, isLocalChar c = true :=
  ((dotted_atoms_iff text).mp proper.dotted).2

/-! ## The last at sign -/

theorem splitLast?_eq_none_iff {separator : Char} {text : List Char} :
    splitLast? separator text = none ↔ separator ∉ text := by
  induction text with
  | nil => simp [splitLast?]
  | cons c rest ih =>
    rw [splitLast?]
    cases found : splitLast? separator rest with
    | some parts =>
      have inside : separator ∈ rest := by
        rw [found] at ih
        simpa using ih
      simp [inside]
    | none =>
      have outside := ih.mp found
      simp [outside, eq_comm]

theorem splitLast?_append {separator : Char} (before : List Char) {after : List Char}
    (last : separator ∉ after) :
    splitLast? separator (before ++ separator :: after) = some (before, after) := by
  induction before with
  | nil => rw [List.nil_append, splitLast?, splitLast?_eq_none_iff.mpr last, if_pos rfl]
  | cons c before ih => rw [List.cons_append, splitLast?, ih]

/-- A text is split at an occurrence with none behind it. -/
theorem splitLast?_eq_some_iff {separator : Char} {text before after : List Char} :
    splitLast? separator text = some (before, after) ↔
      text = before ++ separator :: after ∧ separator ∉ after := by
  constructor
  · intro split
    induction text generalizing before with
    | nil => contradiction
    | cons c rest ih =>
      rw [splitLast?] at split
      cases found : splitLast? separator rest with
      | some parts =>
        rw [found] at split
        obtain ⟨rfl, rfl⟩ := Prod.mk.inj (Option.some.inj split)
        obtain ⟨whole, last⟩ := ih found
        exact ⟨congrArg (c :: ·) whole, last⟩
      | none =>
        simp only [found] at split
        split at split
        case isTrue same =>
          obtain ⟨rfl, rfl⟩ := Prod.mk.inj (Option.some.inj split)
          exact ⟨congrArg (· :: rest) same, splitLast?_eq_none_iff.mp found⟩
        case isFalse => contradiction
  · rintro ⟨rfl, last⟩
    exact splitLast?_append before last

/-! ## Addresses -/

theorem IsLocal.at_not_mem {text : List Char} (proper : IsLocal text) : '@' ∉ text :=
  fun member => absurd (proper.isLocalChar '@' member) (by decide)

theorem IsHost.at_not_mem {text : List Char} (proper : IsHost text) : '@' ∉ text :=
  fun member => absurd (isLabelChar_of_dotted proper.dotted '@' member (by decide)) (by decide)

theorem isAddress_iff (text : List Char) :
    isAddress text = true ↔
      ∃ before after, text = before ++ '@' :: after ∧ IsLocal before ∧ IsHost after := by
  constructor
  · intro accepted
    rw [isAddress] at accepted
    split at accepted
    case h_1 before after split =>
      rw [Bool.and_eq_true, isLocalPart_iff, isDomain_iff] at accepted
      exact ⟨before, after, (splitLast?_eq_some_iff.mp split).1, accepted⟩
    case h_2 => contradiction
  · rintro ⟨before, after, rfl, localPart, host⟩
    rw [isAddress, splitLast?_append before host.at_not_mem]
    simp only [(isLocalPart_iff before).mpr localPart, (isDomain_iff after).mpr host, Bool.and_self]

/-- Where there is a single at sign, there is a single place to split. -/
theorem split_unique {before after before' after' : List Char}
    (single : (before ++ '@' :: after).count '@' = 1)
    (same : before ++ '@' :: after = before' ++ '@' :: after') :
    before = before' ∧ after = after' := by
  have last {front back : List Char} (single : (front ++ '@' :: back).count '@' = 1) :
      '@' ∉ back := by
    rw [List.count_append, List.count_cons_self] at single
    exact List.count_eq_zero.mp (by omega)
  have split := splitLast?_append before (last single)
  rw [same, splitLast?_append before' (last (same ▸ single))] at split
  exact ⟨(Prod.mk.inj (Option.some.inj split)).1.symm, (Prod.mk.inj (Option.some.inj split)).2.symm⟩

/-- An address is a local part, an `@` and a domain, as the grammar has them; it is ASCII, with that
one `@`, and so it is taken apart in no other way. -/
theorem isAddress_exact (s : String) :
    (isAddress s.toList = true ↔
        ∃ l d : String, s = l ++ "@" ++ d ∧ IsLocal l.toList ∧ IsHost d.toList) ∧
      (isAddress s.toList = true → s.toList.count '@' = 1 ∧ (∀ c ∈ s.toList, c.toNat < 128) ∧
        ∀ l d l' d' : String, s = l ++ "@" ++ d → s = l' ++ "@" ++ d' → l = l' ∧ d = d') := by
  have parts (l d : String) : (l ++ "@" ++ d).toList = l.toList ++ '@' :: d.toList := by
    simp
  refine ⟨?_, fun accepted => ?_⟩
  · rw [isAddress_iff]
    constructor
    · rintro ⟨before, after, whole, localPart, host⟩
      refine ⟨.ofList before, .ofList after, String.toList_inj.mp ?_, ?_, ?_⟩
      · rw [parts, whole, String.toList_ofList, String.toList_ofList]
      · rwa [String.toList_ofList]
      · rwa [String.toList_ofList]
    · rintro ⟨l, d, rfl, localPart, host⟩
      exact ⟨l.toList, d.toList, parts l d, localPart, host⟩
  · obtain ⟨before, after, whole, localPart, host⟩ := (isAddress_iff _).mp accepted
    have single : s.toList.count '@' = 1 := by
      rw [whole, List.count_append, List.count_cons_self,
        List.count_eq_zero.mpr localPart.at_not_mem, List.count_eq_zero.mpr host.at_not_mem]
    refine ⟨single, fun c member => ?_, fun l d l' d' first second => ?_⟩
    · rw [whole, List.mem_append, List.mem_cons] at member
      obtain inside | rfl | inside := member
      · exact isAscii_of_isLocalChar (localPart.isLocalChar c inside)
      · decide
      · exact isAscii_of_dotted host.dotted c inside
    · have first := (congrArg String.toList first).trans (parts l d)
      have second := (congrArg String.toList second).trans (parts l' d')
      obtain ⟨same, same'⟩ := split_unique (first ▸ single) (first.symm.trans second)
      exact ⟨String.toList_inj.mp same, String.toList_inj.mp same'⟩

/-- Dots and marks in the local part, a hyphen in a label. -/
theorem isAddress_exact_of_tagged :
    let s := "user.name+tag@my-host.example.com"
    isAddress s.toList = true ∧ s.toList.count '@' = 1 ∧
      ∃ l d : String, s = l ++ "@" ++ d ∧ IsLocal l.toList ∧ IsHost d.toList := by
  intro s
  have accepted : isAddress s.toList = true := by decide +kernel
  obtain ⟨grammar, inside⟩ := isAddress_exact s
  exact ⟨accepted, (inside accepted).1, grammar.mp accepted⟩

end MatchTree.Email
