import MatchTree.Proofs.Number.Digits
import MatchTree.Proofs.Text.Pieces
import MatchTree.Proofs.Text.Quoted

/-!
Lines of a text, each ended by a line feed.

A text that is put together of lines falls back into these lines exactly if none of them is broken.
Quoted texts and numbers are not, whatever they show.
-/

set_option autoImplicit false
namespace MatchTree

/-- Without a line feed. -/
def Unbroken (text : String) : Prop := '\n' ∉ text.toList

instance (text : String) : Decidable (Unbroken text) :=
  inferInstanceAs (Decidable ('\n' ∉ text.toList))

theorem unbroken_ofList_iff {text : List Char} : Unbroken (String.ofList text) ↔ '\n' ∉ text := by
  rw [Unbroken, String.toList_ofList]

@[simp] theorem unbroken_append_iff {first second : String} :
    Unbroken (first ++ second) ↔ Unbroken first ∧ Unbroken second := by
  simp only [Unbroken, String.toList_append, List.mem_append, not_or]

theorem lineFeed_notMem_intercalate_iff {separator : List Char} (plain : '\n' ∉ separator)
    {pieces : List (List Char)} :
    '\n' ∉ separator.intercalate pieces ↔ ∀ piece ∈ pieces, '\n' ∉ piece := by
  induction pieces with
  | nil => simp
  | cons piece rest ih =>
    cases rest with
    | nil => simp
    | cons next more =>
      rw [List.intercalate_cons_of_ne_nil (List.cons_ne_nil next more), List.mem_append,
        List.mem_append, or_iff_left plain, not_or, ih, @List.forall_mem_cons _ _ piece]

theorem unbroken_intercalate_iff {separator : String} (plain : Unbroken separator)
    {texts : List String} :
    Unbroken (separator.intercalate texts) ↔ ∀ text ∈ texts, Unbroken text := by
  rw [Unbroken, String.toList_intercalate, lineFeed_notMem_intercalate_iff plain,
    List.forall_mem_map]
  exact Iff.rfl

/-! ## What is shown -/

theorem lineFeed_notMem_quoteChar (c : Char) : '\n' ∉ quoteChar c := by
  have digit : ∀ d < 16, '\n' ≠ Nat.digitChar d := by decide
  by_cases feed : c = '\n'
  · subst feed
    decide
  intro member
  obtain ⟨plain, _⟩ | ⟨letter, escaped, _, stands⟩ | code := quoteChar_cases c
  · rw [plain] at member
    exact feed (List.mem_singleton.mp member).symm
  · rw [escaped] at member
    obtain same | same : '\n' = '\\' ∨ '\n' = letter := by simpa using member
    · contradiction
    · rw [← same] at stands
      exact feed stands.symm
  · have inside : '\n' ∈ hexDigits c.toNat := by simpa [code, codeEscape] using member
    obtain ⟨d, small, same⟩ := exists_digitChar_of_mem_hexDigits inside
    exact digit d small same

theorem lineFeed_notMem_quoteChars (text : List Char) : '\n' ∉ quoteChars text := by
  simp [quoteChars, lineFeed_notMem_quoteChar]

theorem unbroken_inQuotes_iff {text : String} : Unbroken (inQuotes text) ↔ Unbroken text := by
  have quote : Unbroken "\"" := by decide
  simp only [inQuotes, unbroken_append_iff, quote, true_and, and_true]

theorem lineFeed_notMem_toDigits (n : Nat) : '\n' ∉ Nat.toDigits 10 n :=
  fun member => absurd (isDigit_of_mem_toDigits member) (by decide)

theorem unbroken_repr (n : Nat) : Unbroken n.repr := by
  rw [Nat.repr, unbroken_ofList_iff]
  exact lineFeed_notMem_toDigits n

/-! ## Lines -/

/-- A text is these lines, each ended by a line feed. -/
def IsLines (lines : List (List Char)) (text : List Char) : Prop :=
  splitChars '\n' text = lines ++ [[]]

instance (lines : List (List Char)) (text : List Char) : Decidable (IsLines lines text) :=
  inferInstanceAs (Decidable (splitChars '\n' text = lines ++ [[]]))

theorem flatMap_ended (lines : List (List Char)) :
    (lines.flatMap fun line => line ++ ['\n']) = ['\n'].intercalate (lines ++ [[]]) := by
  induction lines with
  | nil => rfl
  | cons line rest ih =>
    rw [List.flatMap_cons, ih, List.cons_append,
      List.intercalate_cons_of_ne_nil (List.append_ne_nil_of_right_ne_nil rest (by simp))]

/-- Lines can be told from the text exactly if none of them is broken. -/
theorem isLines_flatMap_iff {lines : List (List Char)} :
    IsLines lines (lines.flatMap fun line => line ++ ['\n']) ↔ ∀ line ∈ lines, '\n' ∉ line := by
  rw [IsLines, splitChars_eq]
  constructor
  · intro same line member feed
    -- no piece of a split text holds the separator
    have apart := (@forall_splitChars_iff '\n' (lines.flatMap fun line => line ++ ['\n'])
      (· ≠ '\n')).mpr fun _ _ other => other
    rw [splitChars_eq, same] at apart
    exact apart line (List.mem_append_left _ member) '\n' feed rfl
  · intro unbroken
    rw [flatMap_ended]
    refine List.splitOn_intercalate '\n' (fun line member => ?_) (by simp)
    rcases List.mem_append.mp member with proper | last
    · exact unbroken line proper
    · exact List.mem_singleton.mp last ▸ List.not_mem_nil

end MatchTree
