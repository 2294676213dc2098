import MatchTree.Trace.Journal

/-!
What recording does to the logs of a journal: the log recorded in grows at its end, the others
stay as they are, and none is added or lost.
-/

set_option autoImplicit false
namespace MatchTree.Journal
variable {journal : Journal} {id other : LogId}

/-- The entries of a log, the oldest first. -/
def contents (journal : Journal) (id : LogId) : List Entry := (journal.log id).toList

theorem size_record (entry : Entry) : (journal.record id entry).logs.size = journal.logs.size :=
  Array.size_modify

theorem contents_record_self (known : id < journal.logs.size) (entry : Entry) :
    (journal.record id entry).contents id = journal.contents id ++ [entry] := by
  have there : id < (journal.logs.modify id fun log => log.push entry).size := by
    rwa [Array.size_modify]
  simp [contents, log, record, Array.getElem?_eq_getElem there, Array.getElem?_eq_getElem known,
    Array.getElem_modify_self]

theorem contents_record_of_ne (ne : other ≠ id) (entry : Entry) :
    (journal.record id entry).contents other = journal.contents other := by
  simp [contents, log, record, Array.getElem?_modify, ne.symm]

/-- Records entries one after the other. -/
def recordAll (journal : Journal) (id : LogId) (entries : List Entry) : Journal :=
  entries.foldl (fun journal entry => journal.record id entry) journal

@[simp] theorem recordAll_nil : journal.recordAll id [] = journal := rfl

@[simp] theorem recordAll_cons (entry : Entry) (entries : List Entry) :
    journal.recordAll id (entry :: entries) = (journal.record id entry).recordAll id entries := rfl

theorem recordAll_append (first second : List Entry) :
    journal.recordAll id (first ++ second) = (journal.recordAll id first).recordAll id second :=
  List.foldl_append

@[simp] theorem size_recordAll (entries : List Entry) :
    (journal.recordAll id entries).logs.size = journal.logs.size := by
  induction entries generalizing journal with
  | nil => rfl
  | cons entry rest ih => rw [recordAll_cons, ih, size_record]

theorem contents_recordAll_self (known : id < journal.logs.size) (entries : List Entry) :
    (journal.recordAll id entries).contents id = journal.contents id ++ entries := by
  induction entries generalizing journal with
  | nil => simp
  | cons entry rest ih =>
    have still : id < (journal.record id entry).logs.size := by rwa [size_record]
    rw [recordAll_cons, ih still, contents_record_self known, List.append_assoc]
    rfl

theorem contents_recordAll_of_ne (ne : other ≠ id) (entries : List Entry) :
    (journal.recordAll id entries).contents other = journal.contents other := by
  induction entries generalizing journal with
  | nil => rfl
  | cons entry rest ih => rw [recordAll_cons, ih, contents_record_of_ne ne]

theorem addLog_empty_fst : Journal.empty.addLog.1 = 0 := rfl

/-- A new log is empty, and the others stay as they are. -/
theorem contents_addLog (journal : Journal) (id : LogId) :
    journal.addLog.2.contents id = journal.contents id := by
  simp only [contents, log, addLog, Array.getElem?_push]
  split
  · rename_i new
    simp [new]
  · rfl

end MatchTree.Journal
