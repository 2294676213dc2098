import Mathlib.Data.List.Induction
import Mathlib.Logic.Function.Basic
import MatchTree.Proofs.Trace.Journal
import MatchTree.Trace.Reporter

/-!
Reporters that share a log.

A reporter keeps an error, and its log has entries; both are written with every call. If the
reporters of a log have names of their own, then the error of each can be read off the log: it is
the error of the last outcome under its name. What the others report does not touch it.
-/

set_option autoImplicit false
namespace MatchTree

namespace Entry

/-- An entry tells an outcome, if it is not an entrance. -/
def isOutcome (entry : Entry) : Bool := entry.stage != .entrance

end Entry

/-- The error of the last outcome under a name; none if that is a success, or if there is none. -/
def lastError (name : String) (entries : List Entry) : Option String :=
  (entries.filter fun entry => entry.expander == name && entry.isOutcome).getLast?.bind Entry.error?

theorem lastError_concat_self {name : String} {entry : Entry} (own : entry.expander = name)
    (entries : List Entry) : lastError name (entries ++ [entry]) =
      if entry.isOutcome then entry.error? else lastError name entries := by
  cases outcome : entry.isOutcome <;> simp [lastError, List.filter_append, own, outcome]

theorem lastError_concat_of_ne {name : String} {entry : Entry} (other : entry.expander ≠ name)
    (entries : List Entry) : lastError name (entries ++ [entry]) = lastError name entries := by
  simp [lastError, List.filter_append, other]

/-- Entries that tell no outcome under a name do not matter to it. -/
theorem lastError_append_of_silent {name : String} {before : List Entry}
    (silent : ∀ entry ∈ before, entry.expander = name → entry.isOutcome = false)
    (entries : List Entry) : lastError name (before ++ entries) = lastError name entries := by
  have none : before.filter (fun entry => entry.expander == name && entry.isOutcome) = [] := by
    rw [List.filter_eq_nil_iff]
    intro entry member
    simpa using silent entry member
  rw [lastError, List.filter_append, none, List.nil_append, lastError]

namespace Reporter

/-- What a reporter is asked to report. -/
inductive Call
  | entrance
  | succeed
  | fail (error : String)
  | finish (outcome : Except String Unit)

/-- What a call records. -/
def Call.stage : Call → Stage
  | entrance => .entrance
  | succeed | finish (.ok ()) => .succeed
  | fail error | finish (.error error) => .failed error

def perform (r : Reporter) (v : Value) (journal : Journal) : Call → Reporter × Journal
  | .entrance => (r, r.entrance v journal)
  | .succeed => r.succeed v journal
  | .fail error => r.fail v error journal
  | .finish outcome => (r.finish v outcome journal).2

/-- Every call records one entry; one with an outcome is what the reporter keeps the error of. -/
theorem perform_eq (r : Reporter) (v : Value) (journal : Journal) (call : Call) :
    let entry : Entry := ⟨call.stage, r.name, v⟩
    r.perform v journal call =
      ({ r with error := if entry.isOutcome then entry.error? else r.error },
        journal.record r.log entry) := by
  cases call with
  | finish outcome => cases outcome <;> rfl
  | _ => rfl

end Reporter

/-- Reporters, and the journal that they record in. -/
structure Desk (ι : Type) where
  reporter : ι → Reporter
  journal : Journal

namespace Desk

/-- A call of one of several reporters. -/
structure Report (ι : Type) where
  author : ι
  call : Reporter.Call
  value : Value

/-- What a report records, where the reporters have these names. -/
def Report.entry {ι : Type} (names : ι → String) (report : Report ι) : Entry :=
  ⟨report.call.stage, names report.author, report.value⟩

variable {ι : Type} [DecidableEq ι] {names : ι → String} {log : LogId} {journal : Journal}

/-- New reporters for a log. -/
def start (names : ι → String) (log : LogId) (journal : Journal) : Desk ι :=
  ⟨fun i => .start (names i) log, journal⟩

def step (desk : Desk ι) (report : Report ι) : Desk ι :=
  let (r, journal) :=
    (desk.reporter report.author).perform report.value desk.journal report.call
  ⟨Function.update desk.reporter report.author r, journal⟩

def perform (desk : Desk ι) (reports : List (Report ι)) : Desk ι := reports.foldl step desk

/-- Reporters for a log as the entries say that they recorded. -/
def told (names : ι → String) (log : LogId) (journal : Journal) (entries : List Entry) : Desk ι :=
  ⟨fun i => ⟨names i, log, lastError (names i) entries⟩, journal.recordAll log entries⟩

/-- One more report. -/
theorem step_told (distinct : Function.Injective names) (entries : List Entry)
    (report : Report ι) :
    (told names log journal entries).step report =
      told names log journal (entries ++ [report.entry names]) := by
  have reported : (told names log journal entries).step report =
      ⟨Function.update (told names log journal entries).reporter report.author
          ⟨names report.author, log, if (report.entry names).isOutcome then
            (report.entry names).error? else lastError (names report.author) entries⟩,
        (journal.recordAll log entries).record log (report.entry names)⟩ := by
    rw [step, Reporter.perform_eq]
    rfl
  rw [reported, told, told, Journal.recordAll_append]
  congr 1
  funext i
  by_cases own : i = report.author
  · subst own
    have here : (report.entry names).expander = names report.author := rfl
    rw [Function.update_self, lastError_concat_self here]
  · -- the name that was recorded is no other reporter's
    have other : names report.author ≠ names i := fun same => own (distinct same).symm
    rw [Function.update_of_ne own, lastError_concat_of_ne other]

theorem perform_start (distinct : Function.Injective names) (reports : List (Report ι)) :
    (start names log journal).perform reports =
      told names log journal (reports.map (Report.entry names)) := by
  induction reports using List.reverseRecOn with
  | nil => rfl
  | append_singleton earlier report ih =>
    -- the last report finds what the earlier ones have left
    rw [perform, List.foldl_append, List.map_append]
    show step ((start names log journal).perform earlier) report = _
    rw [ih, step_told distinct]
    rfl

/-- Reporters with names of their own share a log. Every report records one entry, under the name
of its author; and the error of each reporter is that of the last outcome under its name, among
what was recorded since, and in the whole log if there was none before. -/
theorem errors_from_log (distinct : Function.Injective names) (known : log < journal.logs.size)
    (reports : List (Report ι)) :
    let desk := (start names log journal).perform reports
    let entries := reports.map (Report.entry names)
    desk.journal.contents log = journal.contents log ++ entries ∧
      (∀ i, (desk.reporter i).error = lastError (names i) entries) ∧
      ∀ i, (∀ entry ∈ journal.contents log, entry.expander = names i → entry.isOutcome = false) →
        (desk.reporter i).error = lastError (names i) (desk.journal.contents log) := by
  intro desk entries
  have all : desk = told names log journal entries := perform_start distinct reports
  have contents : desk.journal.contents log = journal.contents log ++ entries := by
    rw [all]
    exact Journal.contents_recordAll_self known entries
  have error (i : ι) : (desk.reporter i).error = lastError (names i) entries := by
    rw [all]
    rfl
  refine ⟨contents, error, fun i silent => ?_⟩
  rw [contents, error, lastError_append_of_silent silent]

/-- An entrance leaves the error of the last outcome, and so do the outcomes of another. -/
theorem errors_from_log_of_two :
    let v : Value := .string "x"
    let names : Bool → String := fun i => if i then "first" else "second"
    let journal := Journal.empty.addLog.2
    let reports : List (Report Bool) :=
      [⟨true, .entrance, v⟩, ⟨false, .entrance, v⟩, ⟨false, .fail "low", v⟩,
        ⟨true, .finish (.ok ()), v⟩, ⟨false, .entrance, v⟩]
    let desk := (start names 0 journal).perform reports
    Function.Injective names ∧ 0 < journal.logs.size ∧
      (desk.journal.contents 0).length = 5 ∧
      (desk.reporter false).error = some "low" ∧ (desk.reporter true).error = none := by
  intro v names journal reports desk
  have distinct : Function.Injective names := by
    intro i j
    cases i <;> cases j <;> simp [names]
  have known : 0 < journal.logs.size := by decide
  obtain ⟨contents, error, _⟩ := errors_from_log distinct known reports
  refine ⟨distinct, known, ?_, ?_, ?_⟩
  · rw [contents]
    rfl
  · rw [error]
    rfl
  · rw [error]
    rfl

end Desk
end MatchTree
