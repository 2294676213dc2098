import MatchTree.Proofs.Resolution.Made
import MatchTree.Proofs.Test.Substring
import MatchTree.Proofs.Text.Bytes

/-!
Abbreviations of time zones by the table that lists them.

The table is searched by halving. What is found that way is listed whatever the order of the table;
that nothing is missed is due to its order, which is the one that the search compares in. A text
is put in upper case before the search, and that changes no character but ASCII letters.
-/

set_option autoImplicit false
namespace MatchTree
namespace Zone

/-! ## Searching by halving -/

section
variable {table : Array String} {text : String} {low high : Nat}

theorem mem_of_searchSorted (found : searchSorted table text low high = true) : text ∈ table := by
  fun_induction searchSorted table text low high with
  | case1 => contradiction
  | case2 low high below middle here => exact Array.mem_of_getElem? here
  | case3 low high below middle entry here other lower ih => exact ih found
  | case4 low high below middle entry here other notLower ih => exact ih found
  | case5 => contradiction

/-- A greater entry of an ascending table has a later place. -/
theorem place_lt_of_entry_lt (ascending : table.toList.Pairwise (· < ·)) {first second : Nat}
    {entry entry' : String} (here : table[first]? = some entry)
    (there : table[second]? = some entry') (below : entry < entry') : first < second := by
  obtain ⟨inside, rfl⟩ := Array.getElem?_eq_some_iff.mp here
  obtain ⟨inside', rfl⟩ := Array.getElem?_eq_some_iff.mp there
  have ordered := List.pairwise_iff_getElem.mp ascending second first inside' inside
  obtain before | rfl | after := Nat.lt_trichotomy first second
  · exact before
  · exact absurd below (lt_irrefl _)
  · exact absurd below (lt_asymm (ordered after))

/-- In an ascending table nothing is missed: at each halving, what is left out is all below the
text or all above it. -/
theorem searchSorted_of_place (ascending : table.toList.Pairwise (· < ·))
    (within : high ≤ table.size) {place : Nat} (here : table[place]? = some text)
    (after : low ≤ place) (before : place < high) : searchSorted table text low high = true := by
  fun_induction searchSorted table text low high with
  | case1 low high below middle beyond =>
    have inside : middle < table.size := by omega
    exact absurd inside (Nat.not_lt.mpr (Array.getElem?_eq_none_iff.mp beyond))
  | case2 => rfl
  | case3 low high below middle entry found other lower ih =>
    exact ih within (place_lt_of_entry_lt ascending found here lower) before
  | case4 low high below middle entry found other notLower ih =>
    have above : text < entry := lt_of_le_of_ne (String.not_lt.mp notLower) (Ne.symm other)
    exact ih (by omega) after (place_lt_of_entry_lt ascending here found above)
  | case5 low high empty => exact absurd (Nat.lt_of_le_of_lt after before) empty

/-- To halve an ascending table is to look through all of it. -/
theorem searchSorted_eq_contains (ascending : table.toList.Pairwise (· < ·)) (text : String) :
    searchSorted table text 0 table.size = table.contains text := by
  rw [Bool.eq_iff_iff, Array.contains_iff_mem]
  constructor
  · exact mem_of_searchSorted
  · intro member
    obtain ⟨place, here⟩ := Array.mem_iff_getElem?.mp member
    obtain ⟨inside, _⟩ := Array.getElem?_eq_some_iff.mp here
    exact searchSorted_of_place ascending (Nat.le_refl _) here (Nat.zero_le place) inside

end

/-! ## The table -/

theorem ascending_abbreviations : abbreviations.toList.Pairwise (· < ·) := by
  -- it is enough that each entry is below the next
  rw [← List.isChain_iff_pairwise]
  decide +kernel

theorem isAscii_of_mem_abbreviations {entry : String} (listed : entry ∈ abbreviations) :
    ∀ c ∈ entry.toList, Substring.IsAscii c := by
  have all : abbreviations.toList.all
      (fun entry => entry.toList.all fun c => decide (Substring.IsAscii c)) = true := by
    decide +kernel
  have here := List.all_eq_true.mp all entry (Array.mem_def.mp listed)
  exact fun c member => of_decide_eq_true (List.all_eq_true.mp here c member)

/-! ## Texts in upper case -/

/-- A text with its ASCII letters in upper case. -/
def upper (s : String) : String := .ofList (s.toList.map Char.toUpper)

theorem isAbbreviation_iff (s : String) : isAbbreviation s = true ↔ upper s ∈ abbreviations := by
  rw [isAbbreviation, searchSorted_eq_contains ascending_abbreviations, Array.contains_iff_mem]
  rfl

theorem map_toUpper_of_recased {text text' : List Char}
    (recased : List.Forall₂ Substring.CaseOf text text') :
    text'.map Char.toUpper = text.map Char.toUpper := by
  induction recased with
  | nil => rfl
  | @cons c d _ _ same _ ih =>
    have here : d.toUpper = c.toUpper := by
      rcases same with rfl | rfl | rfl <;> simp
    rw [List.map_cons, List.map_cons, here, ih]

theorem upper_of_recased {s t : String} (recased : Substring.Recased s t) : upper t = upper s :=
  congrArg String.ofList (map_toUpper_of_recased recased)

theorem isAscii_of_toUpper {c : Char} (ascii : Substring.IsAscii c.toUpper) :
    Substring.IsAscii c := by
  -- a small letter is ASCII itself, and no other character is changed
  by_cases letter : c.val ≥ 'a'.val ∧ c.val ≤ 'z'.val
  · have last : c.toNat ≤ 122 := UInt32.le_iff_toNat_le.mp letter.2
    show c.toNat < 128
    omega
  · rwa [Char.toUpper, dif_neg letter] at ascii

theorem isAscii_of_isAbbreviation {s : String} (accepted : isAbbreviation s = true) :
    ∀ c ∈ s.toList, Substring.IsAscii c := by
  intro c member
  have listed := (isAbbreviation_iff s).mp accepted
  have inside : c.toUpper ∈ (upper s).toList := by
    rw [upper, String.toList_ofList]
    exact List.mem_map_of_mem member
  exact isAscii_of_toUpper (isAscii_of_mem_abbreviations listed _ inside)

end Zone

theorem Test.check_isTzAbbreviation_ok_iff (s : String) :
    Test.isTzAbbreviation.check (.string s) = .ok () ↔ Zone.isAbbreviation s = true :=
  Test.require_ok_iff

namespace Registry
variable {registry : Registry}

/-- The test for abbreviations looks a text up in the table, in upper case. The table ascends in the
order of bytes, and so to halve it is to look through all of it. The case of ASCII letters does not
matter, and a text with any other character than ASCII is refused. -/
theorem abbreviations_exact {name : String} (stands : registry.StandsFor name .isTzAbbreviation)
    (log : LogId) :
    ∃ test : Expander,
      (∀ arguments e, registry.Makes log ⟨name, arguments⟩ e ↔ arguments = [] ∧ e = test) ∧
      (∀ memory v journal, let pass := test.run memory v journal
        pass.accepted = (test.answer v).accepted ∧ pass.error = (test.answer v).error) ∧
      (Zone.abbreviations.toList.Pairwise fun entry next => Text.bytes entry < Text.bytes next) ∧
      (∀ text, Zone.searchSorted Zone.abbreviations text 0 Zone.abbreviations.size =
        Zone.abbreviations.contains text) ∧
      (∀ s, (test.answer (.string s)).accepted = true ↔ Zone.upper s ∈ Zone.abbreviations) ∧
      (∀ s t, Substring.Recased s t →
        (test.answer (.string t)).accepted = (test.answer (.string s)).accepted) ∧
      ∀ s, (∃ c ∈ s.toList, ¬ Substring.IsAscii c) →
        (test.answer (.string s)).accepted = false := by
  have accepted (s : String) :
      ((Expander.test log .isTzAbbreviation).answer (.string s)).accepted = true ↔
        Zone.isAbbreviation s = true := by
    rw [Expander.accepted_test_iff, Test.check_isTzAbbreviation_ok_iff]
  refine ⟨.test log .isTzAbbreviation, ?_, ?_, ?_, ?_, ?_, ?_, ?_⟩
  · exact fun _ _ => stands.makes_plain_iff fun _ => rfl
  · intro memory v journal
    obtain ⟨accepted, error, _⟩ := Expander.run_test log .isTzAbbreviation memory v journal
    exact ⟨accepted, error⟩
  · exact Zone.ascending_abbreviations.imp Text.bytes_lt_iff.mpr
  · exact Zone.searchSorted_eq_contains Zone.ascending_abbreviations
  · intro s
    rw [accepted, Zone.isAbbreviation_iff]
  · intro s t recased
    rw [Bool.eq_iff_iff, accepted, accepted, Zone.isAbbreviation_iff, Zone.isAbbreviation_iff,
      Zone.upper_of_recased recased]
  · rintro s ⟨c, member, other⟩
    rw [← Bool.not_eq_true, accepted]
    exact fun listed => other (Zone.isAscii_of_isAbbreviation listed c member)

/-- An entry that another one begins with is found in mixed case. A long s, which is a small letter
as well, is not put in upper case. -/
theorem abbreviations_exact_of_long_s :
    standard.StandsFor "isTzAbbreviation" .isTzAbbreviation ∧
      ∃ test : Expander, standard.Makes 0 ⟨"isTzAbbreviation", []⟩ test ∧
        ∀ memory journal,
          (test.run memory (.string "wIt") journal).accepted = true ∧
          (test.run memory (.string "Wit") journal).accepted = true ∧
          (test.run memory (.string "wi") journal).accepted = false ∧
          (test.run memory (.string "eſt") journal).accepted = false := by
  have stands := @standsFor_standard .isTzAbbreviation (by decide)
  obtain ⟨test, made, runs, _, _, exact, recased, ascii⟩ := abbreviations_exact stands 0
  refine ⟨stands, test, (made _ _).mpr ⟨rfl, rfl⟩, fun memory journal => ?_⟩
  simp only [runs]
  have listed : (test.answer (.string "wIt")).accepted = true :=
    (exact "wIt").mpr (by decide +kernel)
  have case : Substring.Recased "wIt" "Wit" :=
    .cons (.inr (.inr rfl)) (.cons (.inr (.inl rfl)) (.cons (.inl rfl) .nil))
  refine ⟨listed, (recased _ _ case).trans listed, ?_, ?_⟩
  · exact Bool.not_eq_true _ ▸ mt (exact "wi").mp (by decide +kernel)
  · exact ascii "eſt" ⟨'ſ', by decide, by decide⟩

end Registry
end MatchTree
