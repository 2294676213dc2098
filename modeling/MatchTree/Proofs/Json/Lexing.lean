import MatchTree.Proofs.Json.Number
import MatchTree.Proofs.Json.Reread
import MatchTree.Proofs.Value.Induction

/-!
The text of a value is cut into the tokens that the value is made of.

Whatever follows the text is cut as if it stood alone, unless it begins with a character that
could prolong a word; the separators and brackets of a document do not.
-/

set_option autoImplicit false
namespace MatchTree.Json

mutual

/-- A value as the tokens that are cut from its text. -/
def tokens : Value → List Token
  | .string s => [.string (some s)]
  | .array items => .openList :: (itemTokens items ++ [.closeList])
  | .object fields => .openDict :: (fieldTokens fields ++ [.closeDict])
  | v => [.scalar (some v.reread)]

def itemTokens : List Value → List Token
  | [] => []
  | [item] => tokens item
  | item :: rest => tokens item ++ .comma :: itemTokens rest

def fieldTokens : List (String × Value) → List Token
  | [] => []
  | [(key, value)] => .string (some key) :: .colon :: tokens value
  | (key, value) :: rest =>
    .string (some key) :: .colon :: (tokens value ++ .comma :: fieldTokens rest)

end

theorem itemTokens_cons_cons (item next : Value) (rest : List Value) :
    itemTokens (item :: next :: rest) = tokens item ++ .comma :: itemTokens (next :: rest) := rfl

theorem fieldTokens_cons_cons (field next : String × Value) (rest : List (String × Value)) :
    fieldTokens (field :: next :: rest) = .string (some field.1) :: .colon ::
      (tokens field.2 ++ .comma :: fieldTokens (next :: rest)) := rfl

/-- A word before this text ends with its last character. -/
def EndsWord (text : List Char) : Prop := ∀ c ∈ text.head?, isWordChar c = false

theorem endsWord_cons {c : Char} {rest : List Char} (other : isWordChar c = false) :
    EndsWord (c :: rest) := by
  rintro _ ⟨⟩
  exact other

namespace Lexer

theorem run_cons (lexer : Lexer) (c : Char) (rest : List Char) :
    run lexer (c :: rest) =
      (lexer.step c).bind fun (next, first) => (run next rest).map (first ++ ·) := by
  rw [run]
  cases lexer.step c with
  | none => rfl
  | some first => cases tail : run first.1 rest <;> simp [tail]

theorem run_silent {lexer next : Lexer} {c : Char} (step : lexer.step c = some (next, []))
    (rest : List Char) : run lexer (c :: rest) = run next rest := by
  simp [run_cons, step]

/-- A character that is a token of its own. -/
theorem run_token {lexer next : Lexer} {c : Char} {token : Token}
    (step : lexer.step c = some (next, [token])) (rest : List Char) :
    run lexer (c :: rest) = (run next rest).map (token :: ·) := by
  simp [run_cons, step]

variable {rest : List Char}

/-- A pending word takes what prolongs it and is read when it ends. -/
theorem run_word (taken : List Char) (ends : EndsWord rest) (more : List Char)
    (all : more.all isWordChar = true) :
    run (.word taken) (more ++ rest) =
      (word? (taken.reverse ++ more)).bind fun token => (run .idle rest).map (token :: ·) := by
  induction more generalizing taken with
  | cons c more ih =>
    rw [List.all_cons, Bool.and_eq_true_iff] at all
    have step : step (.word taken) c = some (.word (c :: taken), []) := by
      rw [Lexer.step, if_pos all.1]
    rw [List.cons_append, run_silent step, ih (c :: taken) all.2, List.reverse_cons,
      List.append_assoc, List.singleton_append]
  | nil =>
    rw [List.nil_append, List.append_nil]
    cases rest with
    | nil => cases token : word? taken.reverse <;> simp [run, finish, token]
    | cons c rest =>
      -- the character that ends the word is looked at as if nothing had been pending
      have other : isWordChar c = false := ends c rfl
      have cut : step (.word taken) c = (word? taken.reverse).bind fun token =>
          (start c).map fun (next, first) => (next, token :: first) := by
        rw [step, if_neg (by simp [other])]
        cases word? taken.reverse <;> cases start c <;> rfl
      rw [run_cons, run_cons, cut]
      cases word? taken.reverse with
      | none => rfl
      | some token =>
        cases first : start c <;> simp [step, first, Function.comp_def]

theorem step_idle_of_isWordChar {c : Char} (inside : isWordChar c = true) :
    step .idle c = some (.word [c], []) := by
  have space : isSpace c = false := by
    refine Bool.eq_false_iff.mpr fun space => ?_
    simp only [isSpace, Bool.or_eq_true, beq_iff_eq] at space
    obtain ((rfl | rfl) | rfl) | rfl := space <;> exact nomatch inside
  have quote : c ≠ '"' := by
    rintro rfl
    exact nomatch inside
  simp [step, start, space, quote, inside]

theorem run_idle_word {word : List Char} {token : Token} (nonempty : word ≠ [])
    (all : word.all isWordChar = true) (read : word? word = some token) (ends : EndsWord rest) :
    run .idle (word ++ rest) = (run .idle rest).map (token :: ·) := by
  obtain ⟨c, more, rfl⟩ := List.exists_cons_of_ne_nil nonempty
  rw [List.all_cons, Bool.and_eq_true_iff] at all
  rw [List.cons_append, run_silent (step_idle_of_isWordChar all.1), run_word _ ends more all.2,
    List.reverse_singleton, List.singleton_append, read, Option.bind_some]

/-! Strings -/

theorem hexDigit?_digitChar : ∀ d < 16, hexDigit? (Nat.digitChar d) = some d := by
  decide

/-- Inside a string with no escape begun, having spelled these characters so far. -/
abbrev inString (spelled : List Char) : Lexer := .string (some spelled) none .none

/-- A code below the surrogates is a character by itself. -/
theorem endCode_plain (spelled : List Char) {c : Char} (control : c.toNat < 0x20) :
    endCode (some spelled) none c.toNat = inString (c :: spelled) := by
  have high : isHighHalf c.toNat = false := by
    simp only [isHighHalf, Bool.and_eq_false_iff, decide_eq_false_iff_not]
    omega
  have low : isLowHalf c.toNat = false := by
    simp only [isLowHalf, Bool.and_eq_false_iff, decide_eq_false_iff_not]
    omega
  simp [endCode, high, low]

/-- A letter escape spells one character. -/
theorem run_letter (spelled : List Char) {letter c : Char} (other : letter ≠ 'u')
    (escape : letterEscape? letter = some c) :
    run (inString spelled) ('\\' :: letter :: rest) = run (inString (c :: spelled)) rest := by
  rw [run_silent rfl]
  exact run_silent (by simp [step, other, escape, unlessHalf]) rest

theorem run_control (spelled : List Char) {c : Char} (control : c.toNat < 0x20) :
    run (inString spelled) ('\\' :: 'u' :: '0' :: '0' :: (controlDigits c ++ rest)) =
      run (inString (c :: spelled)) rest := by
  have first := hexDigit?_digitChar (c.toNat / 16) (by omega)
  have second := hexDigit?_digitChar (c.toNat % 16) (by omega)
  have code : 16 * (c.toNat / 16) + c.toNat % 16 = c.toNat := Nat.div_add_mod _ _
  -- two digits are still to come, and those before them were zeros
  rw [run_silent rfl, run_silent rfl, run_silent rfl, run_silent rfl]
  show run (.string (some spelled) none (.code 2 0)) (_ :: _ :: rest) = _
  have left : step (.string (some spelled) none (.code 2 0)) (Nat.digitChar (c.toNat / 16)) =
      some (.string (some spelled) none (.code 1 (c.toNat / 16)), []) := by
    simp [step, first]
  have right : step (.string (some spelled) none (.code 1 (c.toNat / 16)))
      (Nat.digitChar (c.toNat % 16)) = some (inString (c :: spelled), []) := by
    simp [step, second, code, endCode_plain spelled control]
  rw [run_silent left, run_silent right]

/-- However a character is written in a string, it is spelled back. -/
theorem run_escapeChar (spelled : List Char) (c : Char) :
    run (inString spelled) (escapeChar c ++ rest) = run (inString (c :: spelled)) rest := by
  rw [escapeChar]
  split
  case isTrue quoted =>
    obtain rfl | rfl := quoted <;> exact run_letter spelled (by decide) rfl
  split
  case isTrue escaped => rw [escaped]; exact run_letter spelled (by decide) rfl
  split
  case isTrue escaped => rw [escaped]; exact run_letter spelled (by decide) rfl
  split
  case isTrue escaped => rw [escaped]; exact run_letter spelled (by decide) rfl
  split
  case isTrue escaped => rw [escaped]; exact run_letter spelled (by decide) rfl
  split
  case isTrue escaped => rw [escaped]; exact run_letter spelled (by decide) rfl
  split
  case isTrue control => exact run_control spelled control
  case isFalse plain _ _ _ _ _ visible =>
    refine run_silent ?_ rest
    simp [step, not_or.mp plain, visible, unlessHalf]

theorem run_escaped (spelled cs : List Char) :
    run (inString spelled) (cs.flatMap escapeChar ++ '"' :: rest) =
      (run .idle rest).map (.string (some (String.ofList (spelled.reverse ++ cs))) :: ·) := by
  induction cs generalizing spelled with
  | nil =>
    rw [List.append_nil]
    exact run_token rfl rest
  | cons c cs ih =>
    rw [List.flatMap_cons, List.append_assoc, run_escapeChar, ih, List.reverse_cons,
      List.append_assoc, List.singleton_append]

/-- A string is spelled back character for character. -/
theorem run_stringChars (s : String) :
    run .idle (stringChars s ++ rest) = (run .idle rest).map (.string (some s) :: ·) := by
  rw [stringChars, List.cons_append, run_silent rfl, List.append_assoc]
  rw [List.singleton_append, run_escaped, List.reverse_nil, List.nil_append, String.ofList_toList]

/-! Values -/

/-- A text is cut into these tokens, whatever follows it. -/
def Spells (text : List Char) (tokens : List Token) : Prop :=
  ∀ rest, EndsWord rest → run .idle (text ++ rest) = (run .idle rest).map (tokens ++ ·)

theorem spells_nil : Spells [] [] := by
  intro rest _
  simp

theorem Spells.token {text : List Char} {more : List Token} (spells : Spells text more) {c : Char}
    {token : Token} (step : step .idle c = some (.idle, [token])) :
    Spells (c :: text) (token :: more) := by
  intro rest ends
  rw [List.cons_append, run_token step, spells rest ends, Option.map_map]
  rfl

theorem Spells.string {text : List Char} {more : List Token} (spells : Spells text more)
    (s : String) : Spells (stringChars s ++ text) (.string (some s) :: more) := by
  intro rest ends
  rw [List.append_assoc, run_stringChars, spells rest ends, Option.map_map]
  rfl

/-- A separator ends what stands before it, and it is a token of its own. -/
theorem Spells.separated {front back : List Char} {former latter : List Token}
    (first : Spells front former) {c : Char} {token : Token} (other : isWordChar c = false)
    (step : step .idle c = some (.idle, [token])) (second : Spells back latter) :
    Spells (front ++ c :: back) (former ++ token :: latter) := by
  intro rest ends
  have more := second.token step rest ends
  have ended : EndsWord (c :: back ++ rest) := endsWord_cons other
  rw [List.append_assoc, first _ ended, more, Option.map_map]
  simp only [Function.comp_def, List.append_assoc]

theorem spells_word {word : List Char} {token : Token} (nonempty : word ≠ [])
    (all : word.all isWordChar = true) (read : word? word = some token) :
    Spells word [token] := fun _ ends => run_idle_word nonempty all read ends

theorem spells_numeral {n : Numeral} {v : Value} (read : number? n.chars = some v) :
    Spells n.chars [.scalar (some v)] := by
  refine spells_word n.chars_ne_nil n.isWordChar_chars ?_
  -- the three names are no numerals
  have name {word : List Char} (other : isNumeral word = false) : n.chars ≠ word := by
    rintro rfl
    exact Bool.noConfusion (other.symm.trans n.isNumeral_chars)
  rw [word?, if_neg (name rfl), if_neg (name rfl), if_neg (name rfl), if_pos n.isNumeral_chars,
    read]

theorem spells_doubleChars (x : Double) :
    Spells (doubleChars x) [.scalar (some (Value.float x).reread)] := by
  cases x with
  | nan => exact spells_word (by decide) (by decide) rfl
  | infinite negative => cases negative <;> exact spells_word (by decide) (by decide) rfl
  | finite x =>
    obtain ⟨n, text, read⟩ := documentText_numeral x
    rw [doubleChars, ← text]
    exact spells_numeral (text ▸ read)

theorem spells_intChars (i : Int64) : Spells (intChars i.toInt) [.scalar (some (.int i))] := by
  have read := number?_intChars i
  rw [← Numeral.chars_ofInt] at read ⊢
  exact spells_numeral read

theorem spells_itemChars {items : List Value}
    (each : ∀ item ∈ items, Spells (chars item) (tokens item)) :
    Spells (itemChars items) (itemTokens items) := by
  induction items with
  | nil => exact spells_nil
  | cons item others ih =>
    obtain ⟨first, rest⟩ := List.forall_mem_cons.mp each
    cases others with
    | nil => exact first
    | cons next others => exact first.separated rfl rfl (ih rest)

theorem spells_fieldChars {fields : List (String × Value)}
    (each : ∀ field ∈ fields, Spells (chars field.2) (tokens field.2)) :
    Spells (fieldChars fields) (fieldTokens fields) := by
  induction fields with
  | nil => exact spells_nil
  | cons field others ih =>
    obtain ⟨key, v⟩ := field
    obtain ⟨first, rest⟩ := List.forall_mem_cons.mp each
    cases others with
    | nil => exact (first.token rfl).string key
    | cons next others => exact ((first.separated rfl rfl (ih rest)).token rfl).string key

/-- The text of a value is cut into the tokens of the value. -/
theorem spells_chars (v : Value) : Spells (chars v) (tokens v) := by
  induction v with
  | null => exact spells_word (by decide) (by decide) rfl
  | bool b => cases b <;> exact spells_word (by decide) (by decide) rfl
  | int i => exact spells_intChars i
  | float x => exact spells_doubleChars x
  | string s => exact fun rest _ => run_stringChars s
  | array items ih => exact ((spells_itemChars ih).separated rfl rfl spells_nil).token rfl
  | object fields ih => exact ((spells_fieldChars ih).separated rfl rfl spells_nil).token rfl

end Lexer

/-- The tokens that a written value is read from. -/
theorem tokens?_chars (v : Value) : tokens? (chars v) = some (tokens v) := by
  have ends : EndsWord [] := fun _ none => nomatch none
  simpa [tokens?, Lexer.run, Lexer.finish] using Lexer.spells_chars v [] ends

end MatchTree.Json
