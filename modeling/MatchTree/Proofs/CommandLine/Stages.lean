import MatchTree.CommandLine.Basic
import MatchTree.Proofs.Registry.Account
import MatchTree.Proofs.Registry.Change
import MatchTree.Proofs.Structure.Agreement
import MatchTree.Proofs.Trace.Lines

/-!
What `match` and `check` report, in terms of the stages that they go through.

Each stage is said by itself: what it works on and how it fails. A run reports the first stage
that fails, whatever the later ones would do; a check goes through all stages but that of the
value, so the two agree wherever the value can be read. The trace is an addition: it is what the
one match has recorded. Of the warnings only the aliases decide.
-/

set_option autoImplicit false
namespace MatchTree.Invocation

/-- The stages of a run. -/
inductive Phase
  | registry
  | pattern
  | value
  | resolution
  deriving DecidableEq, Repr

/-- The stages that a stage comes after. -/
def Phase.before : Phase → List Phase
  | registry => []
  | pattern => [registry]
  | value => [registry, pattern]
  | resolution => [registry, pattern, value]

section
variable (files : Files) (wording : Wording) (aliases : Option String) (pattern value : String)

/-- The registry that a command works with: the usual one, with all the aliases of a file if one
is named. -/
inductive Provides : Option String → Registry → Prop
  | usual : Provides none .standard
  | applied {path : String} {config : Config} (read : loadConfig files wording path = .ok config)
    (succeeded : (Registry.standard.apply config).failure? = none) :
    Provides (some path) (Registry.standard.apply config).registry

/-- What a command warns of: if all the aliases of a file are applied, those that stand for
something already, in the order of their names. -/
def warnings : List Event :=
  match aliases.map (loadConfig files wording) with
  | some (.ok config) =>
    if (Registry.standard.apply config).failure?.isNone then
      config.aliases.flatMap fun (name, _) => Registry.standard.overwriting name
    else []
  | _ => []

/-- A stage fails, with a message. A resolution takes a registry and a pattern. -/
inductive Fails : Phase → String → Prop
  | config {path : String} {failure : Failure} (named : aliases = some path)
    (failed : loadConfig files wording path = .error failure) :
    Fails .registry ("registry config: " ++ failure.message)
  | alias {path : String} {config : Config} {failure : Failure} (named : aliases = some path)
    (read : loadConfig files wording path = .ok config)
    (failed : (Registry.standard.apply config).failure? = some failure) :
    Fails .registry ("registry config: " ++ failure.message)
  | pattern {failure : Failure} (failed : loadNode files wording pattern = .error failure) :
    Fails .pattern failure.message
  | value (failed : Json.read? value.toList = none) :
    Fails .value ("value is not valid JSON: " ++ wording.value value)
  | resolution {registry : Registry} {node : Node} {failure : Failure}
    (provided : Provides files wording aliases registry)
    (read : loadNode files wording pattern = .ok node)
    (failed : (registry.resolve node 0).1 = .error failure) :
    Fails .resolution ("pattern invalid: " ++ failure.message)

/-- A stage fails and none before it does. -/
def FailsFirst (phase : Phase) (reason : String) : Prop :=
  Fails files wording aliases pattern value phase reason ∧
    ∀ other ∈ phase.before, ∀ reason', ¬ Fails files wording aliases pattern value other reason'

/-- All stages go well, and this is what is to be matched. -/
structure Reaches (e : Expander) (v : Value) : Prop where
  resolved : ∃ registry node, Provides files wording aliases registry ∧
    loadNode files wording pattern = .ok node ∧ (registry.resolve node 0).1 = .ok e
  read : ∃ written, Json.read? value.toList = some written ∧ v = written.tidy

end

/-- What is shown of matching a value, without and with the trace. Whatever is recorded before, the
match is the same. -/
structure Shows (warnings : List Event) (e : Expander) (v : Value) (plain traced : Report) :
    Prop where
  accepted : ∀ journal, (e.run .fresh v journal).accepted = true →
    plain = ⟨0, "matched\n", warnings, ""⟩
  refused : ∀ journal, (e.run .fresh v journal).accepted = false →
    plain = ⟨1, "not matched\n" ++ (match (e.run .fresh v journal).error with
      | some error => "  " ++ error ++ "\n"
      | none => ""), warnings, ""⟩
  trace : ∃ entries : List Entry,
    (∀ journal, 0 < journal.logs.size →
      (e.run .fresh v journal).journal.contents 0 = journal.contents 0 ++ entries) ∧
    traced = { plain with
      stdout := plain.stdout ++ String.join (entries.map fun entry => entry.text ++ "\n") }

variable {files : Files} {wording : Wording} {aliases : Option String} {pattern value : String}

/-! ## The stages one by one -/

theorem loadRegistry_some (path : String) :
    (loadRegistry files wording (some path)).1 =
      match loadConfig files wording path with
      | .error failure => .error ("registry config: " ++ failure.message)
      | .ok config =>
        match (Registry.standard.apply config).failure? with
        | some failure => .error ("registry config: " ++ failure.message)
        | none => .ok (Registry.standard.apply config).registry := by
  rw [loadRegistry]
  cases loadConfig files wording path with
  | error failure => rfl
  | ok config =>
    simp only
    cases (Registry.standard.apply config).failure? <;> rfl

theorem loadRegistry_warnings :
    (loadRegistry files wording aliases).2.filter (fun event => event.level == .warn) =
      warnings files wording aliases := by
  cases aliases with
  | none => rfl
  | some path =>
    rw [loadRegistry, warnings, Option.map_some]
    cases loadConfig files wording path with
    | error failure => rfl
    | ok config =>
      have applied := Registry.standard.warnings_apply config
      cases failed : (Registry.standard.apply config).failure? <;> simpa [failed] using applied

theorem loadRegistry_ok_iff {registry : Registry} :
    (loadRegistry files wording aliases).1 = .ok registry ↔
      Provides files wording aliases registry := by
  constructor
  · intro loaded
    cases aliases with
    | none =>
      obtain rfl := Except.ok.inj loaded
      exact .usual
    | some path =>
      rw [loadRegistry_some] at loaded
      split at loaded
      · contradiction
      · rename_i config read
        split at loaded
        · contradiction
        · rename_i succeeded
          obtain rfl := Except.ok.inj loaded
          exact .applied read succeeded
  · rintro (_ | ⟨read, succeeded⟩)
    · rfl
    · rw [loadRegistry_some, read]
      simp only [succeeded]

theorem loadRegistry_error_iff {reason : String} :
    (loadRegistry files wording aliases).1 = .error reason ↔
      Fails files wording aliases pattern value .registry reason := by
  constructor
  · intro failed
    cases aliases with
    | none => contradiction
    | some path =>
      rw [loadRegistry_some] at failed
      split at failed
      · rename_i read
        obtain rfl := Except.error.inj failed
        exact .config rfl read
      · rename_i config read
        split at failed
        · rename_i refused
          obtain rfl := Except.error.inj failed
          exact .alias rfl read refused
        · contradiction
  · intro fails
    cases fails with
    | config named failed => rw [named, loadRegistry_some, failed]
    | «alias» named read failed =>
      rw [named, loadRegistry_some, read]
      simp only [failed]

theorem mapError_ok_iff {ε ε' α : Type} {outcome : Except ε α} {words : ε → ε'} {a : α} :
    outcome.mapError words = .ok a ↔ outcome = .ok a := by
  cases outcome <;> simp [Except.mapError]

theorem mapError_error_iff {ε ε' α : Type} {outcome : Except ε α} {words : ε → ε'} {told : ε'} :
    outcome.mapError words = .error told ↔ ∃ failure, outcome = .error failure ∧
      words failure = told := by
  cases outcome <;> simp [Except.mapError]

theorem loadNode_error_iff {reason : String} :
    (loadNode files wording pattern).mapError Failure.message = .error reason ↔
      Fails files wording aliases pattern value .pattern reason := by
  rw [mapError_error_iff]
  constructor
  · rintro ⟨failure, failed, rfl⟩
    exact .pattern failed
  · intro fails
    cases fails with | pattern failed => exact ⟨_, failed, rfl⟩

theorem readValue_ok_iff {v : Value} :
    readValue wording value = .ok v ↔ ∃ written, Json.read? value.toList = some written ∧
      v = written.tidy := by
  rw [readValue]
  cases Json.read? value.toList with
  | none => simp
  | some written => simp [eq_comm]

theorem readValue_error_iff {reason : String} :
    readValue wording value = .error reason ↔
      Fails files wording aliases pattern value .value reason := by
  rw [readValue]
  constructor
  · intro failed
    cases read : Json.read? value.toList with
    | none =>
      rw [read] at failed
      obtain rfl := Except.error.inj failed
      exact .value read
    | some written =>
      rw [read] at failed
      contradiction
  · intro fails
    cases fails with | value failed =>
    rw [failed]

theorem resolve_ok_iff {registry : Registry} {node : Node} {log : LogId} {e : Expander} :
    resolve registry node log = .ok e ↔ (registry.resolve node log).1 = .ok e := by
  rw [resolve, mapError_ok_iff]

/-- With the registry and the pattern at hand, the resolution fails as it does with these. -/
theorem resolve_error_iff {registry : Registry} {node : Node} {reason : String}
    (provided : Provides files wording aliases registry)
    (read : loadNode files wording pattern = .ok node) :
    resolve registry node 0 = .error reason ↔
      Fails files wording aliases pattern value .resolution reason := by
  rw [resolve, mapError_error_iff]
  constructor
  · rintro ⟨failure, failed, rfl⟩
    exact .resolution provided read failed
  · intro fails
    cases fails with | resolution provided' read' failed =>
    obtain rfl := Except.ok.inj
      ((loadRegistry_ok_iff.mpr provided).symm.trans (loadRegistry_ok_iff.mpr provided'))
    obtain rfl := Except.ok.inj (read.symm.trans read')
    exact ⟨_, failed, rfl⟩

/-! ## All stages -/

/-- What a command resolves. -/
def expander (files : Files) (wording : Wording) (aliases : Option String) (pattern : String) :
    Except String Expander := do
  let registry ← (loadRegistry files wording aliases).1
  let node ← (loadNode files wording pattern).mapError Failure.message
  resolve registry node 0

/-- What a run resolves, and the value that it matches. -/
def subject (files : Files) (wording : Wording) (aliases : Option String)
    (pattern value : String) : Except String (Expander × Value) := do
  let registry ← (loadRegistry files wording aliases).1
  let node ← (loadNode files wording pattern).mapError Failure.message
  let v ← readValue wording value
  let e ← resolve registry node 0
  return (e, v)

/-- A value that can be read makes no difference to what is resolved. -/
theorem subject_of_readValue {v : Value} (read : readValue wording value = .ok v) :
    subject files wording aliases pattern value =
      (expander files wording aliases pattern).map fun e => (e, v) := by
  rw [subject, expander, read]
  cases (loadRegistry files wording aliases).1 with
  | error reason => rfl
  | ok registry =>
    cases (loadNode files wording pattern).mapError Failure.message with
    | error reason => rfl
    | ok node => cases resolve registry node 0 <;> rfl

theorem Phase.length_before_lt {phase other : Phase} (earlier : other ∈ phase.before) :
    other.before.length < phase.before.length := by
  revert earlier
  cases phase <;> cases other <;> decide

/-- Of the stages that fail one is the first. -/
theorem exists_failsFirst {phase : Phase} {reason : String}
    (fails : Fails files wording aliases pattern value phase reason) :
    ∃ first told, FailsFirst files wording aliases pattern value first told := by
  -- an earlier failure has fewer stages before it
  by_cases earlier : ∃ other ∈ phase.before, ∃ told,
      Fails files wording aliases pattern value other told
  · obtain ⟨other, member, told, fails⟩ := earlier
    have shorter := Phase.length_before_lt member
    exact exists_failsFirst fails
  · exact ⟨phase, reason, fails, fun other member told fails =>
      earlier ⟨other, member, told, fails⟩⟩
termination_by phase.before.length

theorem Phase.eq_or_before (phase other : Phase) :
    phase = other ∨ phase ∈ other.before ∨ other ∈ phase.before := by
  cases phase <;> cases other <;> decide

section
variable {α : Type} {outcome : Except String α} {phase : Phase}
  (told : ∀ reason, outcome = .error reason ↔
    Fails files wording aliases pattern value phase reason)
include told

theorem fails_iff_of_error {reason : String} (failed : outcome = .error reason) (other : String) :
    Fails files wording aliases pattern value phase other ↔ reason = other := by
  rw [← told, failed, Except.error.injEq]

theorem not_fails_of_ok {a : α} (passed : outcome = .ok a) (other : String) :
    ¬ Fails files wording aliases pattern value phase other := by
  rw [← told, passed]
  nofun

/-- The outcome of a stage tells the first failure, if none before it fails and it does. -/
theorem error_iff_failsFirst {reason : String} (failed : outcome = .error reason)
    (passed : ∀ before ∈ phase.before, ∀ other,
      ¬ Fails files wording aliases pattern value before other)
    {β : Type} (other : String) :
    (.error reason : Except String β) = .error other ↔
      ∃ first, FailsFirst files wording aliases pattern value first other := by
  have only := fails_iff_of_error told failed
  rw [Except.error.injEq]
  constructor
  · rintro rfl
    exact ⟨phase, (only reason).mpr rfl, passed⟩
  · rintro ⟨first, fails, none⟩
    rcases Phase.eq_or_before first phase with rfl | earlier | later
    · exact (only other).mp fails
    · exact absurd fails (passed first earlier other)
    · exact absurd ((only reason).mpr rfl) (none phase later reason)

end

/-- A run comes to nothing exactly if a stage fails, and then it tells of the first. -/
theorem subject_error_iff {reason : String} :
    subject files wording aliases pattern value = .error reason ↔
      ∃ phase, FailsFirst files wording aliases pattern value phase reason := by
  have registryTold (told : String) :
      (loadRegistry files wording aliases).1 = .error told ↔
        Fails files wording aliases pattern value .registry told := loadRegistry_error_iff
  have patternTold (told : String) :
      (loadNode files wording pattern).mapError Failure.message = .error told ↔
        Fails files wording aliases pattern value .pattern told := loadNode_error_iff
  have valueTold (told : String) :
      readValue wording value = .error told ↔
        Fails files wording aliases pattern value .value told := readValue_error_iff
  rw [subject]
  -- a stage is reached with all before it passed, and then either fails first or passes itself
  cases provided : (loadRegistry files wording aliases).1 with
  | error first => exact error_iff_failsFirst registryTold provided nofun reason
  | ok registry =>
    have registryPassed := not_fails_of_ok registryTold provided
    cases read : (loadNode files wording pattern).mapError Failure.message with
    | error first =>
      have passed : ∀ before ∈ Phase.pattern.before, ∀ other,
          ¬ Fails files wording aliases pattern value before other := by
        simpa [Phase.before] using registryPassed
      exact error_iff_failsFirst patternTold read passed reason
    | ok node =>
      have patternPassed := not_fails_of_ok patternTold read
      cases spelled : readValue wording value with
      | error first =>
        have passed : ∀ before ∈ Phase.value.before, ∀ other,
            ¬ Fails files wording aliases pattern value before other := by
          simpa [Phase.before] using ⟨registryPassed, patternPassed⟩
        exact error_iff_failsFirst valueTold spelled passed reason
      | ok v =>
        have valuePassed := not_fails_of_ok valueTold spelled
        have resolutionTold (told : String) :
            resolve registry node 0 = .error told ↔
              Fails files wording aliases pattern value .resolution told :=
          resolve_error_iff (loadRegistry_ok_iff.mp provided) (mapError_ok_iff.mp read)
        change (resolve registry node 0 >>= fun e => pure (e, v)) = .error reason ↔ _
        cases resolved : resolve registry node 0 with
        | error first =>
          have passed : ∀ before ∈ Phase.resolution.before, ∀ other,
              ¬ Fails files wording aliases pattern value before other := by
            simpa [Phase.before] using ⟨registryPassed, patternPassed, valuePassed⟩
          exact error_iff_failsFirst resolutionTold resolved passed reason
        | ok e =>
          have resolutionPassed := not_fails_of_ok resolutionTold resolved
          refine ⟨nofun, fun ⟨phase, fails, _⟩ => absurd fails ?_⟩
          cases phase with
          | registry => exact registryPassed reason
          | pattern => exact patternPassed reason
          | value => exact valuePassed reason
          | resolution => exact resolutionPassed reason

/-- A run comes to a match exactly if all stages go well. -/
theorem subject_ok_iff {e : Expander} {v : Value} :
    subject files wording aliases pattern value = .ok (e, v) ↔
      Reaches files wording aliases pattern value e v := by
  simp only [subject, ok_bind_iff, loadRegistry_ok_iff, mapError_ok_iff, readValue_ok_iff,
    resolve_ok_iff]
  constructor
  · rintro ⟨registry, provided, node, read, w, spelled, e', resolved, same⟩
    obtain ⟨rfl, rfl⟩ := Prod.mk.inj (Except.ok.inj same)
    exact ⟨⟨registry, node, provided, read, resolved⟩, spelled⟩
  · rintro ⟨⟨registry, node, provided, read, resolved⟩, spelled⟩
    exact ⟨registry, provided, node, read, v, spelled, e, resolved, rfl⟩

/-! ## Reports -/

theorem Provides.within {registry : Registry} (provided : Provides files wording aliases registry) :
    registry.Within Kind.builtin := by
  have usual := Registry.Within.standard (List.Subset.refl Kind.builtin)
  cases provided with
  | usual => exact usual
  | applied => exact usual.apply _

theorem Reaches.records {e : Expander} {v : Value}
    (reaches : Reaches files wording aliases pattern value e v) : e.Records 0 := by
  obtain ⟨registry, node, provided, _, resolved⟩ := reaches.resolved
  have binds := provided.within.binds
  exact ⟨Registry.reporting_of_resolve binds (by decide) resolved,
    Registry.inLog_of_resolve binds.familiar resolved⟩

/-- What a run reports of the match that it comes to. -/
def reportOf (warnings : List Event) (e : Expander) (v : Value) (trace : Bool) : Report :=
  let (log, journal) := Journal.empty.addLog
  let pass := e.run .fresh v journal
  ⟨if pass.accepted then 0 else 1,
    verdictText pass ++ if trace then (pass.journal.log log).text else "", warnings, ""⟩

theorem report_run (files : Files) (wording : Wording) (aliases : Option String)
    (pattern value : String) (trace : Bool) :
    (Request.invoke ⟨aliases, .run pattern value trace⟩).report files wording =
      match subject files wording aliases pattern value with
      | .ok (e, v) => reportOf (warnings files wording aliases) e v trace
      | .error reason => ⟨2, "", warnings files wording aliases, "error: " ++ reason ++ "\n"⟩ := by
  rw [Request.report, report, subject, ← loadRegistry_warnings]
  obtain ⟨registry, announced⟩ := loadRegistry files wording aliases
  cases registry with
  | error reason => rfl
  | ok registry =>
    cases read : (loadNode files wording pattern).mapError Failure.message with
    | error reason => simp [perform, read, bind, Except.bind]
    | ok node =>
      cases spelled : readValue wording value with
      | error reason => simp [perform, read, spelled, bind, Except.bind]
      | ok v =>
        cases resolved : resolve registry node 0 <;>
          simp [perform, read, spelled, Journal.addLog_empty_fst, resolved, reportOf, bind,
            Except.bind, pure, Except.pure]

theorem report_check (files : Files) (wording : Wording) (aliases : Option String)
    (pattern : String) :
    (Request.invoke ⟨aliases, .check pattern⟩).report files wording =
      match expander files wording aliases pattern with
      | .ok _ => ⟨0, "Pattern valid\n", warnings files wording aliases, ""⟩
      | .error reason => ⟨2, "", warnings files wording aliases, "error: " ++ reason ++ "\n"⟩ := by
  rw [Request.report, report, expander, ← loadRegistry_warnings]
  obtain ⟨registry, announced⟩ := loadRegistry files wording aliases
  cases registry with
  | error reason => rfl
  | ok registry =>
    cases read : (loadNode files wording pattern).mapError Failure.message with
    | error reason => simp [perform, read, bind, Except.bind]
    | ok node =>
      cases resolved : resolve registry node 0 <;>
        simp [perform, read, resolved, bind, Except.bind, pure, Except.pure]

theorem reportOf_code (warnings : List Event) (e : Expander) (v : Value) (trace : Bool) :
    (reportOf warnings e v trace).code = 0 ∨ (reportOf warnings e v trace).code = 1 := by
  simp only [reportOf]
  split <;> simp

theorem Reaches.shows {e : Expander} {v : Value}
    (reaches : Reaches files wording aliases pattern value e v) (warnings : List Event) :
    Shows warnings e v (reportOf warnings e v false) (reportOf warnings e v true) := by
  -- what is reported has been recorded in a journal of its own, and any other shows the same
  have shows (journal : Journal) := reaches.records.shows .fresh v journal
  refine ⟨fun journal accepted => ?_, fun journal refused => ?_, (e.visit v).entries,
    fun journal known => ?_, ?_⟩
  · have answer := (shows Journal.empty.addLog.2).accepted.trans
      ((shows journal).accepted.symm.trans accepted)
    simp [reportOf, verdictText, answer]
  · have answer := (shows Journal.empty.addLog.2).accepted.trans
      ((shows journal).accepted.symm.trans refused)
    have error := (shows Journal.empty.addLog.2).error.trans (shows journal).error.symm
    cases told : (e.run .fresh v journal).error <;>
      simp [reportOf, verdictText, answer, error.trans told]
  · rw [(shows journal).journal, Journal.contents_recordAll_self known]
  · have recorded : (e.run .fresh v Journal.empty.addLog.2).journal.contents 0 =
        (e.visit v).entries := by
      rw [(shows _).journal, Journal.contents_recordAll_self (by decide)]
      rfl
    simp only [reportOf, Log.text_eq_join]
    rw [← recorded]
    simp [Journal.contents]
    rfl

/-- For a value that can be read, a run goes as far as a check does. -/
theorem report_run_of_spelled (files : Files) (wording : Wording) (aliases : Option String)
    (pattern : String) {value : String} (spelled : (Json.read? value.toList).isSome = true) (trace : Bool) :
    ∃ v, (Request.invoke ⟨aliases, .run pattern value trace⟩).report files wording =
      match expander files wording aliases pattern with
      | .ok e => reportOf (warnings files wording aliases) e v trace
      | .error reason => ⟨2, "", warnings files wording aliases, "error: " ++ reason ++ "\n"⟩ := by
  obtain ⟨written, spelled⟩ := Option.isSome_iff_exists.mp spelled
  have read : readValue wording value = .ok written.tidy :=
    readValue_ok_iff.mpr ⟨written, spelled, rfl⟩
  refine ⟨written.tidy, ?_⟩
  rw [report_run, subject_of_readValue read]
  cases expander files wording aliases pattern <;> rfl

theorem report_of_failsFirst {phase : Phase} {reason : String} (trace : Bool)
    (first : FailsFirst files wording aliases pattern value phase reason) :
    (Request.invoke ⟨aliases, .run pattern value trace⟩).report files wording =
      ⟨2, "", warnings files wording aliases, "error: " ++ reason ++ "\n"⟩ := by
  rw [report_run, subject_error_iff.mpr ⟨phase, first⟩]

theorem report_code_eq_two_iff (trace : Bool) :
    ((Request.invoke ⟨aliases, .run pattern value trace⟩).report files wording).code = 2 ↔
      ∃ phase reason, Fails files wording aliases pattern value phase reason := by
  constructor
  · intro failed
    cases came : subject files wording aliases pattern value with
    | error reason =>
      obtain ⟨phase, fails, _⟩ := subject_error_iff.mp came
      exact ⟨phase, reason, fails⟩
    | ok pair =>
      rw [report_run, came] at failed
      have codes := reportOf_code (warnings files wording aliases) pair.1 pair.2 trace
      simp only at failed
      omega
  · rintro ⟨phase, reason, fails⟩
    obtain ⟨first, told, first⟩ := exists_failsFirst fails
    rw [report_of_failsFirst trace first]

theorem report_shows
    (none : ∀ phase reason, ¬ Fails files wording aliases pattern value phase reason) :
    ∃ e v, Reaches files wording aliases pattern value e v ∧
      Shows (warnings files wording aliases) e v
        ((Request.invoke ⟨aliases, .run pattern value false⟩).report files wording)
        ((Request.invoke ⟨aliases, .run pattern value true⟩).report files wording) := by
  cases came : subject files wording aliases pattern value with
  | error reason =>
    obtain ⟨phase, fails, _⟩ := subject_error_iff.mp came
    exact absurd fails (none phase reason)
  | ok pair =>
    have reaches := subject_ok_iff.mp came
    refine ⟨pair.1, pair.2, reaches, ?_⟩
    rw [report_run, report_run, came]
    exact reaches.shows _

/-- What `match` reports is decided by the first stage that fails or, if none does, by the match;
`check` reports the same for every value that can be read. The trace only adds what the match has
recorded, and the warnings are those of the aliases throughout. -/
theorem reports_agree (files : Files) (wording : Wording) (aliases : Option String)
    (pattern : String) :
    let run (value : String) (trace : Bool) : Report :=
      (Request.invoke ⟨aliases, .run pattern value trace⟩).report files wording
    let check : Report := (Request.invoke ⟨aliases, .check pattern⟩).report files wording
    let spelled (value : String) : Prop := (Json.read? value.toList).isSome = true
    (∀ value,
      (∀ trace, (run value trace).code = 2 ↔
        ∃ phase reason, Fails files wording aliases pattern value phase reason) ∧
      (∀ trace phase reason, FailsFirst files wording aliases pattern value phase reason →
        run value trace = ⟨2, "", warnings files wording aliases, "error: " ++ reason ++ "\n"⟩) ∧
      ((∀ phase reason, ¬ Fails files wording aliases pattern value phase reason) →
        ∃ e v, Reaches files wording aliases pattern value e v ∧
          Shows (warnings files wording aliases) e v (run value false) (run value true))) ∧
    (check.code = 0 ↔
      ∀ value, spelled value → (run value false).code = 0 ∨ (run value false).code = 1) ∧
    (check.code ≠ 0 →
      check.code = 2 ∧ ∀ value, spelled value → check = run value false) := by
  intro run check spelled
  refine ⟨fun value => ⟨report_code_eq_two_iff, fun trace _ _ => report_of_failsFirst trace,
    report_shows⟩, ?_⟩
  have checked : check = _ := report_check files wording aliases pattern
  have ran (value : String) (read : spelled value) :=
    report_run_of_spelled files wording aliases pattern read
  cases resolved : expander files wording aliases pattern with
  | ok e =>
    rw [resolved] at checked
    simp only [resolved] at ran
    rw [checked]
    refine ⟨⟨fun _ value read => ?_, fun _ => rfl⟩, fun ne => absurd rfl ne⟩
    obtain ⟨v, same⟩ := ran value read false
    rw [show run value false = _ from same]
    exact reportOf_code _ e v false
  | error reason =>
    rw [resolved] at checked
    simp only [resolved, exists_const] at ran
    have same (value : String) (read : spelled value) : check = run value false :=
      checked.trans (ran value read false).symm
    refine ⟨⟨fun zero => ?_, fun runs => ?_⟩, fun _ => ⟨congrArg Report.code checked, same⟩⟩
    · rw [checked] at zero
      contradiction
    · -- some value can be read, and the run on it fails like the check
      have code := runs "null" rfl
      rw [← same "null" rfl, checked] at code
      simp at code

end MatchTree.Invocation
