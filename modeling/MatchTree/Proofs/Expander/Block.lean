import MatchTree.Proofs.Expander.Run

/-!
The block of entries that a run leaves in its log.

Which expanders a run calls for depends on the expander and the value alone. Its block holds
theirs, one after the other, between its own entrance and its own outcome.
-/

set_option autoImplicit false
namespace MatchTree

/-- The items up to and including the first with a property; all of them if none has it. -/
def upTo {α : Type} (found : α → Bool) : List α → List α
  | [] => []
  | item :: rest => if found item then [item] else item :: upTo found rest

theorem mem_of_mem_upTo {α : Type} {found : α → Bool} {items : List α} {item : α}
    (member : item ∈ upTo found items) : item ∈ items := by
  induction items with
  | nil => exact member
  | cons first rest ih =>
    rw [upTo] at member
    split at member
    · exact List.mem_cons.mpr (.inl (List.mem_singleton.mp member))
    · rcases List.mem_cons.mp member with rfl | later
      · exact List.mem_cons_self
      · exact List.mem_cons_of_mem first (ih later)

namespace Expander

/-- The expanders that a run calls for, in order, and the value each is given. -/
def calls : Expander → Value → List (Expander × Value)
  | .oneOf _ children, v =>
    (upTo (fun child => child.accepts v) children).map fun child => (child, v)
  | .each _ (.nested child) _, .array items =>
    (upTo (fun item => !child.accepts item) items).map fun item => (child, item)
  | .structural _ (.nested child), v => [(child, v)]
  | _, _ => []

theorem inner_visitFirst (children : List Expander) (v : Value) (errors : List String) :
    (visitFirst children v errors).inner =
      (upTo (fun child => child.accepts v) children).map fun child => child.visit v := by
  induction children generalizing errors with
  | nil => rfl
  | cons child rest ih =>
    rw [visitFirst, upTo, accepts]
    cases (child.visit v).accepted with
    | true => rfl
    | false =>
      simp only [Bool.false_eq_true, if_false, List.map_cons]
      rw [ih]

theorem inner_visitItems (check : Value → Survey) (index : Nat) (items : List Value) :
    (visitItems check index items).inner =
      (upTo (fun item => !(check item).outcome.isOk) items).flatMap fun item =>
        (check item).inner := by
  induction items generalizing index with
  | nil => rfl
  | cons item rest ih =>
    rw [visitItems, upTo]
    cases came : (check item).outcome with
    | ok u => simp [Except.isOk, Except.toBool, ih]
    | error error => simp [Except.isOk, Except.toBool]

theorem isOk_visitPattern_nested (child : Expander) (strict : Bool) (v : Value) :
    (visitPattern (.nested child) strict v).outcome.isOk = child.accepts v := by
  rw [visitPattern, accepts]
  cases (child.visit v).accepted <;> rfl

theorem inner_visitItems_nested (child : Expander) (strict : Bool) (index : Nat)
    (items : List Value) :
    (visitItems (visitPattern (.nested child) strict) index items).inner =
      (upTo (fun item => !child.accepts item) items).map child.visit := by
  rw [inner_visitItems, List.map_eq_flatMap]
  simp only [isOk_visitPattern_nested]
  rfl

/-- No item of an array is run against a literal. -/
theorem inner_visitItems_literal (pattern : Value) (strict : Bool) (index : Nat)
    (items : List Value) :
    (visitItems (visitPattern (.literal pattern) strict) index items).inner = [] := by
  simp [inner_visitItems, visitPattern]

theorem inner_visit (e : Expander) (v : Value) :
    (e.visit v).inner = (e.calls v).map fun call => call.1.visit call.2 := by
  cases e with
  | oneOf log children =>
    simp only [visit, calls, inner_visitFirst, List.map_map, Function.comp_def]
  | each log pattern strict =>
    cases v with
    | array items =>
      cases pattern with
      | literal pattern => exact inner_visitItems_literal pattern strict 0 items
      | nested child =>
        simp only [visit, calls, inner_visitItems_nested, List.map_map, Function.comp_def]
    | _ => cases pattern <;> rfl
  | structural log pattern => cases pattern <;> rfl
  | _ => rfl

-- The first item is empty, the second is not, and the third is not looked at.
example : (each 0 (.nested (.test 0 .isEmpty)) true).calls (.array [.null, .bool true, .null]) =
    [(.test 0 .isEmpty, .null), (.test 0 .isEmpty, .bool true)] := rfl

mutual

/-- Neither the expander nor any inside it leaves out its outcome. -/
def Reporting : Expander → Prop
  | .test _ _ | .record _ _ _ => True
  | .oneOf _ children => ReportingAll children
  | .each _ pattern _ | .structural _ pattern => ReportingArgument pattern
  | .silent _ | .impostor _ => False

def ReportingAll : List Expander → Prop
  | [] => True
  | child :: rest => child.Reporting ∧ ReportingAll rest

def ReportingArgument : Argument Expander → Prop
  | .literal _ => True
  | .nested child => child.Reporting

end

theorem reportingAll_iff {children : List Expander} :
    ReportingAll children ↔ ∀ child ∈ children, child.Reporting := by
  induction children with
  | nil => simp [ReportingAll]
  | cons child rest ih => simp [ReportingAll, ih]

mutual

/-- What always reports has nothing to remember wrongly. -/
theorem Reporting.settled : ∀ {e : Expander}, e.Reporting → ∀ memory : Memory, e.Settled memory
  | .test _ _, _, _ | .record _ _ _, _, _ => trivial
  | .oneOf _ _, reporting, memory => ReportingAll.settled reporting memory.children
  | .each _ _ _, reporting, memory | .structural _ _, reporting, memory =>
    ReportingArgument.settled reporting memory.children

theorem ReportingAll.settled : ∀ {children : List Expander}, ReportingAll children →
    ∀ memories : List Memory, SettledAll children memories
  | [], _, _ => trivial
  | _ :: _, ⟨first, others⟩, memories =>
    ⟨Reporting.settled first (Memory.first memories), ReportingAll.settled others (memories.drop 1)⟩

theorem ReportingArgument.settled : ∀ {pattern : Argument Expander}, ReportingArgument pattern →
    ∀ memories : List Memory, SettledArgument pattern memories
  | .literal _, _, _ => trivial
  | .nested _, reporting, memories => Reporting.settled reporting (Memory.first memories)

end

/-- The expander and all inside it record in one log, and report. -/
structure Records (log : LogId) (e : Expander) : Prop where
  reporting : e.Reporting
  inLog : e.inLog log = e

variable {log : LogId}

theorem eq_of_mem_inLogAll {children : List Expander} (same : inLogAll log children = children)
    {child : Expander} (member : child ∈ children) : child.inLog log = child := by
  induction children with
  | nil => contradiction
  | cons first rest ih =>
    obtain ⟨here, there⟩ := List.cons.inj same
    rcases List.mem_cons.mp member with rfl | later
    · exact here
    · exact ih there later

theorem Records.of_mem_calls {e child : Expander} {v w : Value} (records : e.Records log)
    (member : (child, w) ∈ e.calls v) : child.Records log := by
  obtain ⟨reporting, same⟩ := records
  unfold calls at member
  split at member
  · obtain ⟨found, inside, pair⟩ := List.mem_map.mp member
    obtain ⟨rfl, rfl⟩ := Prod.mk.inj pair
    have there := mem_of_mem_upTo inside
    exact ⟨reportingAll_iff.mp reporting found there, eq_of_mem_inLogAll (oneOf.inj same).2 there⟩
  · obtain ⟨item, _, pair⟩ := List.mem_map.mp member
    obtain ⟨rfl, rfl⟩ := Prod.mk.inj pair
    exact ⟨reporting, Argument.nested.inj (each.inj same).2.1⟩
  · obtain ⟨rfl, rfl⟩ := Prod.mk.inj (List.mem_singleton.mp member)
    exact ⟨reporting, Argument.nested.inj (structural.inj same).2⟩
  · contradiction

end Expander

/-- A run came out as the last stage of its entries says. -/
inductive Outcome : Stage → Pass → Prop
  | succeed {pass : Pass} (accepted : pass.accepted = true) (silent : pass.error = none) :
    Outcome .succeed pass
  | failed {pass : Pass} {error : String} (refused : pass.accepted = false)
    (left : pass.error = some error) : Outcome (.failed error) pass

/-- A run of an expander on a value adds these entries to its log and nothing to others, and
comes out as a stage says. -/
structure Leaves (log : LogId) (e : Expander) (v : Value) (entries : List Entry) (stage : Stage)
    (memory : Memory) (journal : Journal) : Prop where
  contents : log < journal.logs.size →
    (e.run memory v journal).journal.contents log = journal.contents log ++ entries
  others : ∀ other, other ≠ log →
    (e.run memory v journal).journal.contents other = journal.contents other
  answer : (e.run memory v journal).accepted = e.accepts v
  outcome : Outcome stage (e.run memory v journal)

mutual

/-- The entries that every run of an expander on a value leaves, whatever is remembered and
recorded before it, and how many runs there are, those inside it counted. -/
inductive Block (log : LogId) : Expander → Value → (runs : Nat) → List Entry → Prop
  | intro {e : Expander} {v : Value} {runs : Nat} {inner : List Entry} (stage : Stage)
    (blocks : Blocks log (e.calls v) runs inner)
    (leaves : ∀ memory journal, Leaves log e v
      (⟨.entrance, e.name, v⟩ :: (inner ++ [⟨stage, e.name, v⟩])) stage memory journal) :
    Block log e v (runs + 1) (⟨.entrance, e.name, v⟩ :: (inner ++ [⟨stage, e.name, v⟩]))

/-- The blocks of several runs, one after the other. -/
inductive Blocks (log : LogId) : List (Expander × Value) → (runs : Nat) → List Entry → Prop
  | nil : Blocks log [] 0 []
  | cons {e : Expander} {v : Value} {rest : List (Expander × Value)} {runs later : Nat}
    {entries more : List Entry} (first : Block log e v runs entries)
    (others : Blocks log rest later more) :
    Blocks log ((e, v) :: rest) (runs + later) (entries ++ more)

end

/-- Entrances wait for their outcomes, the last one first. -/
inductive Closes : (waiting : List Entry) → List Entry → (left : List Entry) → Prop
  | done (waiting : List Entry) : Closes waiting [] waiting
  | enter {entry : Entry} {waiting rest left : List Entry} (entrance : entry.stage = .entrance)
    (later : Closes (entry :: waiting) rest left) : Closes waiting (entry :: rest) left
  | leave {entry last : Entry} {waiting rest left : List Entry} (outcome : entry.stage ≠ .entrance)
    (expander : entry.expander = last.expander) (value : entry.value = last.value)
    (later : Closes waiting rest left) : Closes (last :: waiting) (entry :: rest) left

variable {log : LogId}

theorem Outcome.ne_entrance {stage : Stage} {pass : Pass} (outcome : Outcome stage pass) :
    stage ≠ .entrance := by
  cases outcome <;> simp

mutual

/-- An entrance and an outcome for each run. -/
theorem Block.length_entries : ∀ {e : Expander} {v : Value} {runs : Nat} {entries : List Entry},
    Block log e v runs entries → entries.length = 2 * runs
  | _, _, _, _, .intro _ blocks _ => by
    have inner := Blocks.length_entries blocks
    simp only [List.length_cons, List.length_append, List.length_nil]
    omega

theorem Blocks.length_entries : ∀ {calls : List (Expander × Value)} {runs : Nat}
    {entries : List Entry}, Blocks log calls runs entries → entries.length = 2 * runs
  | _, _, _, .nil => rfl
  | _, _, _, .cons first others => by
    have here := Block.length_entries first
    have there := Blocks.length_entries others
    rw [List.length_append]
    omega

end

mutual

/-- A block closes its own entrances, and leaves those before it waiting. -/
theorem Block.closes : ∀ {e : Expander} {v : Value} {runs : Nat} {entries : List Entry},
    Block log e v runs entries → ∀ {waiting rest left : List Entry},
      Closes waiting rest left → Closes waiting (entries ++ rest) left
  | _, _, _, _, .intro _ blocks leaves, _, _, _, later => by
    have outcome := (leaves .fresh .empty).outcome.ne_entrance
    rw [List.cons_append, List.append_assoc]
    -- the entrance waits while the inner blocks open and close on top of it
    exact .enter rfl (Blocks.closes blocks (.leave outcome rfl rfl later))

theorem Blocks.closes : ∀ {calls : List (Expander × Value)} {runs : Nat} {entries : List Entry},
    Blocks log calls runs entries → ∀ {waiting rest left : List Entry},
      Closes waiting rest left → Closes waiting (entries ++ rest) left
  | _, _, _, .nil, _, _, _, later => later
  | _, _, _, .cons first others, _, _, _, later => by
    rw [List.append_assoc]
    exact Block.closes first (Blocks.closes others later)

end

namespace Expander
variable {e : Expander}

theorem reported_of_reporting (reporting : e.Reporting) (v : Value) :
    ∃ outcome, (e.visit v).ending = .reported outcome := by
  cases e with
  | silent log | impostor log => exact reporting.elim
  | each log pattern strict => cases v <;> exact ⟨_, rfl⟩
  | _ => exact ⟨_, rfl⟩

theorem outcome_of_reported (outcome : Except String Unit) :
    ∃ stage, (Ending.reported outcome).stages = [stage] ∧
      ∀ pass : Pass, pass.accepted = (Ending.reported outcome).accepted →
        pass.error = (Ending.reported outcome).error → Outcome stage pass := by
  cases outcome with
  | ok u => exact ⟨.succeed, rfl, fun _ accepted error => .succeed accepted error⟩
  | error reason => exact ⟨.failed reason, rfl, fun _ accepted error => .failed accepted error⟩

/-- The one stage that ends a visit is what a run that shows it comes out as. -/
theorem closing_of_reported {v : Value} {outcome : Except String Unit}
    (reported : (e.visit v).ending = .reported outcome) :
    ∃ stage, (e.visit v).closing = [⟨stage, e.name, v⟩] ∧
      ∀ (journal : Journal) (pass : Pass), pass.Shows log journal (e.visit v) →
        Outcome stage pass := by
  obtain ⟨stage, stages, comesOut⟩ := outcome_of_reported outcome
  rw [← reported] at stages comesOut
  refine ⟨stage, ?_, fun _ pass shows => comesOut pass shows.accepted shows.error⟩
  rw [Visit.closing, stages, List.map_singleton, name_visit, value_visit]

theorem shows_of_settled (same : e.inLog log = e) {memory : Memory} (settled : e.Settled memory)
    (v : Value) (journal : Journal) :
    (e.run memory v journal).Shows log journal (e.visit v) := by
  have shows := (@run_shows log e memory v journal settled).1
  rwa [same] at shows

/-- An expander that reports leaves the entries of its visit, whatever is inside it. -/
theorem leaves_of_reported (same : e.inLog log = e) {v : Value} {outcome : Except String Unit}
    (reported : (e.visit v).ending = .reported outcome) :
    ∃ stage, (e.visit v).entries = ⟨.entrance, e.name, v⟩ ::
        (Visit.entriesOfAll (e.visit v).inner ++ [⟨stage, e.name, v⟩]) ∧
      ∀ memory journal, e.Settled memory →
        Leaves log e v (e.visit v).entries stage memory journal := by
  obtain ⟨stage, closing, outcome⟩ := @closing_of_reported log e v outcome reported
  refine ⟨stage, ?_, fun memory journal settled => ?_⟩
  · rw [Visit.entries_eq, closing, name_visit, value_visit]
  · have shows := shows_of_settled same settled v journal
    refine ⟨fun opened => ?_, fun other ne => ?_, shows.accepted, outcome journal _ shows⟩
    · rw [shows.journal, Journal.contents_recordAll_self opened]
    · rw [shows.journal, Journal.contents_recordAll_of_ne ne]

theorem Records.shows (records : e.Records log) (memory : Memory) (v : Value) (journal : Journal) :
    (e.run memory v journal).Shows log journal (e.visit v) :=
  shows_of_settled records.inLog (records.reporting.settled memory) v journal

theorem Records.leaves (records : e.Records log) (v : Value) :
    ∃ stage, (e.visit v).entries = ⟨.entrance, e.name, v⟩ ::
        (Visit.entriesOfAll (e.visit v).inner ++ [⟨stage, e.name, v⟩]) ∧
      ∀ memory journal, Leaves log e v (e.visit v).entries stage memory journal := by
  obtain ⟨_, reported⟩ := reported_of_reporting records.reporting v
  obtain ⟨stage, entries, leaves⟩ := leaves_of_reported records.inLog reported
  exact ⟨stage, entries, fun memory journal =>
    leaves memory journal (records.reporting.settled memory)⟩

end Expander

mutual

/-- The induction is on the visit, whose inner visits are those of the calls that are made. -/
theorem block_of_visit : ∀ (visit : Visit) {e : Expander} {v : Value}, e.Records log →
    e.visit v = visit → Block log e v visit.calls visit.entries
  | ⟨name, value, inner, ending⟩, e, v, records, same => by
    obtain ⟨stage, entries, leaves⟩ := records.leaves v
    have called : inner = (e.calls v).map fun call => call.1.visit call.2 := by
      rw [← Expander.inner_visit, same]
    have blocks : Blocks log (e.calls v) (Visit.callsOfAll inner) (Visit.entriesOfAll inner) :=
      blocks_of_visits inner (fun child w member => records.of_mem_calls member) called.symm
    rw [same] at entries leaves
    rw [entries] at leaves ⊢
    exact .intro stage blocks leaves

theorem blocks_of_visits : ∀ (visits : List Visit) {calls : List (Expander × Value)},
    (∀ child w, (child, w) ∈ calls → child.Records log) →
    (calls.map fun call => call.1.visit call.2) = visits →
    Blocks log calls (Visit.callsOfAll visits) (Visit.entriesOfAll visits)
  | [], [], _, _ => .nil
  | visit :: rest, (child, w) :: calls, records, same => by
    obtain ⟨here, there⟩ := List.cons.inj same
    exact .cons (block_of_visit visit (records child w List.mem_cons_self) here)
      (blocks_of_visits rest
        (fun child w member => records child w (List.mem_cons_of_mem _ member)) there)

end
end MatchTree
