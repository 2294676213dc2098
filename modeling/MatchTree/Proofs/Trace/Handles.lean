import Mathlib.Logic.Relation
import MatchTree.Proofs.Trace.Journal

/-!
Handles told from the calls alone, without journals and numbers of logs.

A new handle is for a log that no other handle is for, and a copy is for the log of what it is
copied from; which log that is never changes. So two handles are for one log exactly if copies
connect them, and a log holds what was recorded through all the handles that are for it.
-/

set_option autoImplicit false
namespace MatchTree.Handles

/-- What handles are asked to do. -/
inductive Call
  | fresh
  | copy (handle : Nat)
  | record (handle : Nat) (entry : Entry)

/-- Calls that were made, the latest first. -/
abbrev Calls := List Call

namespace Calls

/-- The number of handles there are after the calls. -/
def made : Calls → Nat
  | [] => 0
  | .fresh :: earlier | .copy _ :: earlier => made earlier + 1
  | .record _ _ :: earlier => made earlier

/-- Every call is for a handle that there was at the time. -/
def Fit : Calls → Prop
  | [] => True
  | .fresh :: earlier => Fit earlier
  | .copy handle :: earlier | .record handle _ :: earlier => handle < made earlier ∧ Fit earlier

/-- The copies that were made, each as a handle and the copy of it. -/
def copies : Calls → List (Nat × Nat)
  | [] => []
  | .copy handle :: earlier => (handle, made earlier) :: copies earlier
  | _ :: earlier => copies earlier

/-- One handle was made as a copy of the other. -/
def Copied (calls : Calls) (handle copy : Nat) : Prop := (handle, copy) ∈ calls.copies

/-- What was recorded, and through which handle, in the order of the calls. -/
def records : Calls → List (Nat × Entry)
  | [] => []
  | .record handle entry :: earlier => records earlier ++ [(handle, entry)]
  | _ :: earlier => records earlier

theorem records_append (later earlier : Calls) :
    records (later ++ earlier) = records earlier ++ records later := by
  induction later with
  | nil => simp [records]
  | cons call rest ih => cases call <;> simp [records, ih]

end Calls

/-- No handles, and no logs. -/
def empty : Handles := ⟨.empty, #[]⟩

def step (handles : Handles) : Call → Handles
  | .fresh => handles.fresh
  | .copy handle => handles.copy handle
  | .record handle entry => handles.record handle entry

/-- The handles after some calls. -/
def after : Calls → Handles
  | [] => empty
  | call :: earlier => (after earlier).step call

-- Handles start with a first one, for an empty log.
example : after [.fresh] = start := rfl

variable {handles : Handles} {handle other : Nat} {id : LogId} {calls : Calls}

/-! ## Single calls -/

theorem lt_of_target? (found : handles.target? handle = some id) :
    handle < handles.targets.size :=
  (Array.getElem?_eq_some_iff.mp found).1

theorem target?_fresh (handles : Handles) (other : Nat) :
    handles.fresh.target? other =
      if other = handles.targets.size then some handles.journal.logs.size
      else handles.target? other :=
  Array.getElem?_push

theorem target?_copy (found : handles.target? handle = some id) (other : Nat) :
    (handles.copy handle).target? other =
      if other = handles.targets.size then some id else handles.target? other := by
  rw [copy, found]
  exact Array.getElem?_push

theorem target?_record (handles : Handles) (handle : Nat) (entry : Entry) (other : Nat) :
    (handles.record handle entry).target? other = handles.target? other := by
  rw [record]
  split <;> rfl

/-- A handle is for one log for good. -/
theorem target?_step (found : handles.target? handle = some id) (call : Call) :
    (handles.step call).target? handle = some id := by
  -- a handle that is added comes behind those that there are
  have old : handle ≠ handles.targets.size := Nat.ne_of_lt (lt_of_target? found)
  cases call with
  | fresh => rw [step, target?_fresh, if_neg old, found]
  | copy source =>
    cases there : handles.target? source with
    | none => rwa [step, copy, there]
    | some _ => rw [step, target?_copy there, if_neg old, found]
  | record writer entry => rw [step, target?_record, found]

theorem target?_after (found : (after calls).target? handle = some id) (later : Calls) :
    (after (later ++ calls)).target? handle = some id := by
  induction later with
  | nil => exact found
  | cons call rest ih => exact target?_step ih call

/-! ## Whole runs -/

/-- What was recorded through the handles for a log. -/
def told (handles : Handles) (calls : Calls) (id : LogId) : List Entry :=
  (calls.records.filter fun record => handles.target? record.1 == some id).map Prod.snd

/-- Handles are what the calls say. -/
structure Accords (calls : Calls) (handles : Handles) : Prop where
  size : handles.targets.size = calls.made
  within : ∀ handle id, handles.target? handle = some id → id < handles.journal.logs.size
  joined : ∀ handle copy, calls.Copied handle copy →
    ∃ id, handles.target? handle = some id ∧ handles.target? copy = some id
  connected : ∀ handle other id, handles.target? handle = some id →
    handles.target? other = some id → Relation.EqvGen calls.Copied handle other
  recorded : ∀ record ∈ calls.records, ∃ id, handles.target? record.1 = some id
  contents : ∀ id, handles.journal.contents id = handles.told calls id

namespace Accords

theorem empty : Accords [] Handles.empty where
  size := rfl
  within handle id found := by simp [Handles.empty, target?] at found
  joined _ _ copied := nomatch copied
  connected handle _ id found _ := by simp [Handles.empty, target?] at found
  recorded _ member := nomatch member
  contents id := by
    simp [Handles.empty, told, Calls.records, Journal.contents, Journal.log, Journal.empty]

theorem exists_target (accords : Accords calls handles) (there : handle < calls.made) :
    ∃ id, handles.target? handle = some id :=
  ⟨_, Array.getElem?_eq_getElem (accords.size ▸ there)⟩

/-- Where handles stay for their logs, what was recorded through them is told of the same logs. -/
theorem told_of_kept (accords : Accords calls handles) {handles' : Handles}
    (kept : ∀ handle id, handles.target? handle = some id → handles'.target? handle = some id)
    (id : LogId) : handles'.told calls id = handles.told calls id := by
  unfold told
  congr 1
  refine List.filter_congr fun record member => ?_
  obtain ⟨id', found⟩ := accords.recorded record member
  rw [found, kept record.1 id' found]

theorem told_step (accords : Accords calls handles) (call : Call) (id : LogId) :
    (handles.step call).told calls id = handles.told calls id :=
  accords.told_of_kept (fun _ _ found => target?_step found call) id

theorem told_record (accords : Accords calls handles) (found : handles.target? handle = some id)
    (entry : Entry) (id' : LogId) :
    (handles.record handle entry).told (.record handle entry :: calls) id' =
      handles.told calls id' ++ if id = id' then [entry] else [] := by
  rw [← accords.told_step (.record handle entry) id']
  simp only [told, Calls.records, List.filter_append, List.map_append]
  congr 1
  by_cases same : id = id' <;> simp [target?_record, found, same]

theorem joined_step (accords : Accords calls handles) (call : Call) {copy : Nat}
    (copied : calls.Copied handle copy) :
    ∃ id, (handles.step call).target? handle = some id ∧
      (handles.step call).target? copy = some id := by
  obtain ⟨id, here, there⟩ := accords.joined handle copy copied
  exact ⟨id, target?_step here call, target?_step there call⟩

theorem recorded_step (accords : Accords calls handles) (call : Call) {record : Nat × Entry}
    (member : record ∈ calls.records) : ∃ id, (handles.step call).target? record.1 = some id :=
  (accords.recorded record member).imp fun _ found => target?_step found call

theorem fresh (accords : Accords calls handles) : Accords (.fresh :: calls) handles.fresh where
  size := (Array.size_push _).trans (congrArg (· + 1) accords.size)
  within handle id found := by
    have grown : handles.fresh.journal.logs.size = handles.journal.logs.size + 1 :=
      Array.size_push _
    rw [target?_fresh] at found
    rw [grown]
    split at found
    · obtain rfl := Option.some.inj found
      exact Nat.lt_succ_self _
    · exact Nat.lt_succ_of_lt (accords.within handle id found)
  joined _ _ := accords.joined_step .fresh
  connected handle other id here there := by
    rw [target?_fresh] at here there
    -- the new log is the new handle's alone, as the others are for logs that there were
    split at here <;> split at there
    · rename_i new new'
      rw [new, new']
      exact .refl _
    · obtain rfl := Option.some.inj here
      exact absurd (accords.within _ _ there) (Nat.lt_irrefl _)
    · obtain rfl := Option.some.inj there
      exact absurd (accords.within _ _ here) (Nat.lt_irrefl _)
    · exact accords.connected handle other id here there
  recorded _ := accords.recorded_step .fresh
  contents id := by
    have same : handles.fresh.told calls id = handles.told calls id := accords.told_step .fresh id
    exact (Journal.contents_addLog _ id).trans ((accords.contents id).trans same.symm)

theorem copy (accords : Accords calls handles) (there : handle < calls.made) :
    Accords (.copy handle :: calls) (handles.copy handle) := by
  obtain ⟨id, found⟩ := accords.exists_target there
  have journal : (handles.copy handle).journal = handles.journal := by
    rw [Handles.copy, found]
  have new : (handles.copy handle).target? calls.made = some id := by
    rw [target?_copy found, if_pos accords.size.symm]
  have mono := Relation.EqvGen.mono (r := calls.Copied)
    (p := Calls.Copied (.copy handle :: calls)) fun _ _ copied => List.mem_cons_of_mem _ copied
  -- every handle is connected to one that there was before, and is for the same log
  have earlier (other : Nat) (id' : LogId)
      (named : (handles.copy handle).target? other = some id') :
      ∃ source, handles.target? source = some id' ∧
        Relation.EqvGen (Calls.Copied (.copy handle :: calls)) source other := by
    rw [target?_copy found] at named
    split at named
    case isTrue last =>
      rw [accords.size] at last
      exact ⟨handle, found.trans named, .rel _ _ (last ▸ List.mem_cons_self)⟩
    case isFalse => exact ⟨other, named, .refl _⟩
  refine ⟨?size, ?within, ?joined, ?connected, ?recorded, ?contents⟩
  case size =>
    rw [Handles.copy, found]
    exact (Array.size_push _).trans (congrArg (· + 1) accords.size)
  case within =>
    intro other id' named
    obtain ⟨source, named, _⟩ := earlier other id' named
    exact journal ▸ accords.within source id' named
  case joined =>
    intro first second copied
    obtain same | copied := List.mem_cons.mp copied
    · obtain ⟨rfl, rfl⟩ := Prod.mk.inj same
      exact ⟨id, target?_step found (.copy first), new⟩
    · exact accords.joined_step (.copy handle) copied
  case connected =>
    intro first second id' here there
    obtain ⟨source, named, first⟩ := earlier first id' here
    obtain ⟨source', named', second⟩ := earlier second id' there
    have joined := mono _ _ (accords.connected source source' id' named named')
    exact first.symm.trans _ _ _ (joined.trans _ _ _ second)
  case recorded => exact fun _ => accords.recorded_step (.copy handle)
  case contents =>
    intro id'
    rw [journal, accords.contents id']
    exact (accords.told_step (.copy handle) id').symm

theorem record (accords : Accords calls handles) (there : handle < calls.made) (entry : Entry) :
    Accords (.record handle entry :: calls) (handles.record handle entry) := by
  obtain ⟨id, found⟩ := accords.exists_target there
  have journal : (handles.record handle entry).journal = handles.journal.record id entry := by
    rw [Handles.record, found]
  refine ⟨?size, ?within, ?joined, ?connected, ?recorded, ?contents⟩
  case size =>
    rw [Handles.record, found]
    exact accords.size
  case within =>
    intro other id' named
    rw [target?_record] at named
    rw [journal, Journal.size_record]
    exact accords.within other id' named
  case joined => exact fun _ _ => accords.joined_step (.record handle entry)
  case connected =>
    intro first second id' here there
    rw [target?_record] at here there
    exact accords.connected first second id' here there
  case recorded =>
    intro record member
    obtain member | last := List.mem_append.mp member
    · exact accords.recorded_step (.record handle entry) member
    · obtain rfl := List.mem_singleton.mp last
      exact ⟨id, target?_step found (.record handle entry)⟩
  case contents =>
    intro id'
    rw [journal, accords.told_record found entry id']
    by_cases same : id = id'
    · subst same
      have known := accords.within handle id found
      rw [Journal.contents_record_self known, accords.contents, if_pos rfl]
    · rw [Journal.contents_record_of_ne (Ne.symm same), accords.contents, if_neg same,
        List.append_nil]

/-- Copies connect handles for one log only. -/
theorem target?_eq_of_connected (accords : Accords calls handles)
    (connected : Relation.EqvGen calls.Copied handle other) :
    handles.target? handle = handles.target? other := by
  induction connected with
  | rel handle copy copied =>
    obtain ⟨id, here, there⟩ := accords.joined handle copy copied
    rw [here, there]
  | refl handle => rfl
  | symm handle other _ ih => exact ih.symm
  | trans first second third _ _ ih ih' => exact ih.trans ih'

theorem sameLog_iff (accords : Accords calls handles) (there : handle < calls.made) :
    handles.sameLog handle other = true ↔ Relation.EqvGen calls.Copied handle other := by
  rw [sameLog, beq_iff_eq]
  constructor
  · intro same
    obtain ⟨id, found⟩ := accords.exists_target there
    exact accords.connected handle other id found (same ▸ found)
  · exact accords.target?_eq_of_connected

/-- A handle shows what was recorded through the handles for its log. -/
theorem log_eq (accords : Accords calls handles) (found : handles.target? handle = some id) :
    (handles.log handle).toList = handles.told calls id := by
  rw [log, found]
  exact accords.contents id

end Accords

theorem accords_after (fit : calls.Fit) : Accords calls (after calls) := by
  induction calls with
  | nil => exact .empty
  | cons call earlier ih =>
    cases call with
    | fresh => exact (ih fit).fresh
    | copy handle => exact (ih fit.2).copy fit.1
    | record handle entry => exact (ih fit.2).record fit.1 entry

/-- After any calls, copies connect exactly the handles that are for one log, and a handle shows
what was recorded through all of these, in order. So a record is seen through every handle that is
connected to the one it is made through and through no other, and logs only grow. -/
theorem after_shares {calls : Calls} (fit : calls.Fit) :
    let handles := after calls
    handles.targets.size = calls.made ∧
      (∀ a b, a < calls.made → b < calls.made →
        (handles.sameLog a b = true ↔ Relation.EqvGen calls.Copied a b)) ∧
      (∀ a, a < calls.made → (handles.log a).toList =
        (calls.records.filter fun record => handles.sameLog record.1 a).map Prod.snd) ∧
      (∀ a entry b, a < calls.made → b < calls.made → ((handles.record a entry).log b).toList =
        (handles.log b).toList ++ if handles.sameLog a b then [entry] else []) ∧
      ∀ later : Calls, Calls.Fit (later ++ calls) → ∀ a, a < calls.made →
        (handles.log a).toList <+: ((after (later ++ calls)).log a).toList := by
  intro handles
  have accords : Accords calls handles := accords_after fit
  refine ⟨accords.size, fun a b there _ => accords.sameLog_iff there, ?_, ?_, ?_⟩
  · intro a there
    obtain ⟨id, found⟩ := accords.exists_target there
    rw [accords.log_eq found, told]
    simp only [sameLog, found]
  · intro a entry b there there'
    obtain ⟨id, found⟩ := accords.exists_target there
    obtain ⟨id', found'⟩ := accords.exists_target there'
    have recorded := accords.record there entry
    rw [recorded.log_eq (target?_step found' (.record a entry)), accords.told_record found,
      accords.log_eq found']
    simp [sameLog, found, found']
  · intro later still a there
    obtain ⟨id, found⟩ := accords.exists_target there
    have kept : (after (later ++ calls)).told calls id = handles.told calls id :=
      accords.told_of_kept (fun _ _ found => target?_after found later) id
    rw [accords.log_eq found, (accords_after still).log_eq (target?_after found later), ← kept]
    -- the later records come behind the earlier ones
    simp only [told, Calls.records_append, List.filter_append, List.map_append]
    exact List.prefix_append _ _

/-- A copy of a copy that is made after a record shows the record, and what is recorded through it
is seen through the first handle; a new handle is apart. -/
theorem after_shares_of_two_copies :
    let first : Entry := ⟨.entrance, "isIp", .string "::1"⟩
    let second : Entry := ⟨.succeed, "isIp", .string "::1"⟩
    let third : Entry := ⟨.failed "is no array", "count", .null⟩
    let calls : Calls :=
      [.record 2 third, .record 3 second, .copy 1, .fresh, .copy 0, .record 0 first, .fresh]
    calls.Fit ∧ Relation.EqvGen calls.Copied 0 3 ∧ ¬ Relation.EqvGen calls.Copied 0 2 ∧
      ((after calls).log 0).toList = [first, second] ∧ ((after calls).log 2).toList = [third] := by
  intro first second third calls
  have fit : calls.Fit := by simp [calls, Calls.Fit, Calls.made]
  obtain ⟨_, connected, shown, _⟩ := after_shares fit
  have four : calls.made = 4 := rfl
  have records : calls.records = [(0, first), (3, second), (2, third)] := rfl
  have targets : (after calls).targets = #[0, 0, 1, 0] := rfl
  have same (a b : Nat) : (after calls).sameLog a b =
      ((#[0, 0, 1, 0] : Array LogId)[a]? == (#[0, 0, 1, 0] : Array LogId)[b]?) := by
    rw [sameLog, target?, target?, targets]
  clear_value calls
  refine ⟨fit, ?_, ?_, ?_, ?_⟩
  · exact (connected 0 3 (by omega) (by omega)).mp (same 0 3)
  · rw [← connected 0 2 (by omega) (by omega), same 0 2]
    decide
  · rw [shown 0 (by omega), records]
    simp [same]
  · rw [shown 2 (by omega), records]
    simp [same]

end MatchTree.Handles
