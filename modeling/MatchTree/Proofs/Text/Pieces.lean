import MatchTree.Text.RangeTable

/-!
Pieces of a text between the occurrences of a character, and joining them again.
-/

set_option autoImplicit false
namespace MatchTree

variable {separator : Char} {text : List Char}

/-- Splitting is what the library calls it; its lemmas about joining apply. -/
theorem splitChars_eq (separator : Char) (text : List Char) :
    splitChars separator text = text.splitOn separator := by
  induction text with
  | nil => rfl
  | cons c rest ih =>
    rw [List.splitOn_eq_splitOnP, List.splitOnP_cons_eq_if_modifyHead, ← List.splitOn_eq_splitOnP,
      ← ih, splitChars]
    cases pieces : splitChars separator rest with
    | nil => exact absurd (ih.symm.trans pieces) (List.splitOn_ne_nil separator rest)
    | cons piece others => simp

theorem splitChars_cons_self (separator : Char) (rest : List Char) :
    splitChars separator (separator :: rest) = [] :: splitChars separator rest := by
  simp [splitChars_eq, List.splitOn_eq_splitOnP, List.splitOnP_cons_eq_if_modifyHead]

theorem splitChars_cons_of_ne {c : Char} (other : c ≠ separator) (rest : List Char) :
    ∃ piece pieces, splitChars separator rest = piece :: pieces ∧
      splitChars separator (c :: rest) = (c :: piece) :: pieces := by
  rw [splitChars]
  cases found : splitChars separator rest with
  | nil =>
    rw [splitChars_eq] at found
    exact absurd found (List.splitOn_ne_nil separator rest)
  | cons piece pieces => exact ⟨piece, pieces, rfl, by simp [other]⟩

theorem length_splitChars_pos (separator : Char) (text : List Char) :
    1 ≤ (splitChars separator text).length := by
  rw [splitChars_eq]
  exact List.length_pos_iff.mpr (List.splitOn_ne_nil separator text)

/-- The characters of the pieces are those of the text without the separators. -/
theorem forall_splitChars_iff {holds : Char → Prop} :
    (∀ piece ∈ splitChars separator text, ∀ c ∈ piece, holds c) ↔
      ∀ c ∈ text, c ≠ separator → holds c := by
  induction text with
  | nil => simp [splitChars]
  | cons c rest ih =>
    by_cases same : c = separator
    · subst same
      simp [splitChars_cons_self, ih]
    · obtain ⟨piece, pieces, found, split⟩ := splitChars_cons_of_ne same rest
      rw [found] at ih
      rw [split, List.forall_mem_cons, List.forall_mem_cons, List.forall_mem_cons, ← ih,
        List.forall_mem_cons, and_assoc, forall_prop_of_true same]

/-- A text is joined of pieces of some form exactly if it is split into such pieces. -/
theorem exists_intercalate_iff {proper : List Char → Prop}
    (apart : ∀ piece, proper piece → separator ∉ piece) {least : Nat} (nonempty : 1 ≤ least) :
    (∃ pieces, least ≤ pieces.length ∧ (∀ piece ∈ pieces, proper piece) ∧
        text = [separator].intercalate pieces) ↔
      least ≤ (splitChars separator text).length ∧
        ∀ piece ∈ splitChars separator text, proper piece := by
  rw [splitChars_eq]
  constructor
  · rintro ⟨pieces, count, all, rfl⟩
    rw [List.splitOn_intercalate separator (fun piece member => apart piece (all piece member))
      (List.ne_nil_of_length_pos (by omega))]
    exact ⟨count, all⟩
  · exact fun ⟨count, all⟩ => ⟨_, count, all, (List.intercalate_splitOn separator).symm⟩

end MatchTree
