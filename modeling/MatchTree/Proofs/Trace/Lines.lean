import MatchTree.Proofs.Test.RawTexts
import MatchTree.Trace.Journal

/-!
The lines of a shown log. Errors are all that can break one, as values are shown escaped.
-/

set_option autoImplicit false
namespace MatchTree

/-- Only errors are told raw in an entry, and names. -/
theorem Entry.unbroken_text_iff {entry : Entry} (named : Unbroken entry.expander) :
    Unbroken entry.text ↔ ∀ error, entry.error? = some error → Unbroken error := by
  obtain ⟨stage, expander, v⟩ := entry
  have front : Unbroken "#" ∧ Unbroken " expander " ∧ Unbroken ": value " := by decide
  have words : Unbroken "entrance" ∧ Unbroken "succeed" ∧ Unbroken "failed" ∧
      Unbroken ", error: " ∧ Unbroken "" := by decide
  cases stage <;>
    simp only [text, error?, unbroken_append_iff, named, front, words, v.unbroken_text, true_and,
      and_true, Option.some.injEq, forall_eq', reduceCtorEq, false_imp_iff, implies_true]

namespace Log

theorem text_eq_join (log : Log) :
    log.text = String.join (log.toList.map fun entry => entry.text ++ "\n") := by
  rw [Log.text, ← Array.foldl_toList]
  suffices ∀ (entries : List Entry) (shown : String),
      entries.foldl (fun shown entry => shown ++ entry.text ++ "\n") shown =
        shown ++ String.join (entries.map fun entry => entry.text ++ "\n") by
    rw [this, String.empty_append]
  intro entries
  induction entries with
  | nil => exact fun shown => String.append_empty.symm
  | cons entry rest ih =>
    intro shown
    rw [List.foldl_cons, ih, List.map_cons, String.join_cons, String.append_assoc,
      String.append_assoc, String.append_assoc]

/-- What is shown of the entries, in order. -/
def lines (log : Log) : List (List Char) := log.toList.map fun entry => entry.text.toList

theorem toList_text (log : Log) :
    log.text.toList = log.lines.flatMap fun line => line ++ ['\n'] := by
  simp [text_eq_join, lines, String.toList_join, List.flatMap_map]

/-- A log is shown in one line for each entry exactly if no entry is broken. -/
theorem isLines_text_iff (log : Log) :
    IsLines log.lines log.text.toList ↔ ∀ entry ∈ log.toList, Unbroken entry.text := by
  rw [toList_text, isLines_flatMap_iff]
  exact List.forall_mem_map

end Log
end MatchTree
