import MatchTree.Proofs.Expander.Lines
import MatchTree.Proofs.Registry.Change
import MatchTree.Proofs.Resolution.Dates
import MatchTree.Proofs.Test.Substring
import MatchTree.Proofs.Trace.Lines

/-!
When a trace shows one line for each entry.

It does so exactly if no error in it is broken. Of what a tree is given, only literal texts and the
keys of literals are told raw in errors, and of the values only keys: a line feed in one of these is
all that can break a line.
-/

set_option autoImplicit false
namespace MatchTree

/-- The texts of a literal that may be told raw: the keys within, and the literal itself if it is a
text. -/
def Value.rawTexts (v : Value) : List String := v.asString.toList ++ v.keysWithin

/-- The texts of a tree that may be told raw. -/
def Node.rawTexts (node : Node) : List String := node.literals.flatMap Value.rawTexts

namespace Kind
variable {arguments : Arguments} {t : Test}

theorem exists_of_needleTest {test : String → Bool → Test}
    (tested : needleTest test arguments = .ok t) :
    ∃ s ignoreCase, .literal (.string s) ∈ arguments.items ∧
      t = test (if ignoreCase then String.ofList (Substring.lower s.toList) else s) ignoreCase := by
  obtain ⟨_, _, tested⟩ := ok_bind_iff.mp tested
  obtain ⟨ignoreCase, _, tested⟩ := ok_bind_iff.mp tested
  obtain ⟨s, found, tested⟩ := ok_bind_iff.mp tested
  exact ⟨s, ignoreCase, Arguments.mem_of_string found, (Except.ok.inj tested).symm⟩

theorem exists_of_regexTest (tested : regexTest arguments = .ok t) :
    ∃ regex, .literal (.string regex.source) ∈ arguments.items ∧ t = .matchRegex regex := by
  obtain ⟨_, _, tested⟩ := ok_bind_iff.mp tested
  obtain ⟨pattern, found, tested⟩ := ok_bind_iff.mp tested
  cases compiled : Regex.compile pattern with
  | error fault =>
    rw [compiled] at tested
    contradiction
  | ok regex =>
    rw [compiled] at tested
    obtain ⟨_, _, compiled⟩ := ok_bind_iff.mp compiled
    obtain ⟨_, _, compiled⟩ := ok_bind_iff.mp compiled
    obtain rfl := Except.ok.inj compiled
    exact ⟨_, Arguments.mem_of_string found, (Except.ok.inj tested).symm⟩

theorem exists_of_countTest (tested : countTest arguments = .ok t) : ∃ n, t = .count n := by
  obtain ⟨_, _, tested⟩ := ok_bind_iff.mp tested
  obtain ⟨i, _, tested⟩ := ok_bind_iff.mp tested
  split at tested
  case isTrue => contradiction
  case isFalse => exact ⟨_, (Except.ok.inj tested).symm⟩

/-- What is built tells nothing raw but texts of the literals that it is built from, and what the
expanders tell that it is built from. -/
theorem unbroken_of_build {kind : Kind} {log : LogId} {e : Expander}
    (fits : ∀ item ∈ arguments.items, Argument.Fit (fun v => ∀ text ∈ v.rawTexts, Unbroken text)
      (fun child => ∀ text ∈ child.rawTexts, Unbroken text) item)
    (built : kind.build arguments log = .ok e) : ∀ text ∈ e.rawTexts, Unbroken text := by
  have nothing : ∀ text ∈ ([] : List String), Unbroken text := List.forall_mem_nil _
  have given {s : String} (member : .literal (.string s) ∈ arguments.items) : Unbroken s :=
    fits _ member s (List.mem_append_left _ List.mem_cons_self)
  -- texts in a literal pattern are shown; its keys are told raw
  have pattern {argument : Argument Expander} (member : argument ∈ arguments.items) :
      ∀ text ∈ Expander.rawTextsOfPattern argument, Unbroken text := by
    cases argument with
    | literal v => exact fun key inside => fits _ member key (List.mem_append_right _ inside)
    | nested child => exact fits _ member
  -- what is told is the needle as it is kept, in lower case where case does not matter
  have needle {s : String} (member : .literal (.string s) ∈ arguments.items) (ignoreCase : Bool) :
      ∀ text ∈ [if ignoreCase then String.ofList (Substring.lower s.toList) else s],
        Unbroken text := by
    refine List.forall_mem_singleton.mpr ?_
    cases ignoreCase with
    | false => exact given member
    | true => exact unbroken_ofList_iff.mpr (Substring.lineFeed_notMem_lower (given member))
  cases kind with
  | startsWith | endsWith | contains | notContains =>
    obtain ⟨t, tested, rfl⟩ := ok_of_map built
    obtain ⟨s, ignoreCase, member, rfl⟩ := exists_of_needleTest tested
    exact needle member ignoreCase
  | matchRegex =>
    obtain ⟨t, tested, rfl⟩ := ok_of_map built
    obtain ⟨regex, member, rfl⟩ := exists_of_regexTest tested
    exact List.forall_mem_singleton.mpr (given member)
  | hasProperty =>
    obtain ⟨t, tested, rfl⟩ := ok_of_map built
    obtain ⟨_, _, tested⟩ := ok_bind_iff.mp tested
    obtain ⟨key, found, tested⟩ := ok_bind_iff.mp tested
    obtain rfl := Except.ok.inj tested
    exact List.forall_mem_singleton.mpr (given (Arguments.mem_of_string found))
  | greaterThan | lowerThan =>
    obtain ⟨t, tested, rfl⟩ := ok_of_map built
    obtain ⟨_, x, _, _, rfl⟩ := numberTest_ok_iff.mp tested
    exact nothing
  | count =>
    obtain ⟨t, tested, rfl⟩ := ok_of_map built
    obtain ⟨n, rfl⟩ := exists_of_countTest tested
    exact nothing
  | after | before =>
    obtain ⟨t, tested, rfl⟩ := ok_of_map built
    obtain ⟨_, m, _, _, rfl⟩ := momentTest_ok_iff.mp tested
    exact nothing
  | inArray =>
    obtain ⟨t, tested, rfl⟩ := ok_of_map built
    obtain ⟨_, _, tested⟩ := ok_bind_iff.mp tested
    obtain ⟨v, _, tested⟩ := ok_bind_iff.mp tested
    obtain rfl := Except.ok.inj tested
    exact nothing
  | oneOf =>
    obtain ⟨_, _, built⟩ := ok_bind_iff.mp built
    obtain ⟨children, found, built⟩ := ok_bind_iff.mp built
    obtain rfl := Except.ok.inj built
    rw [Expander.rawTexts, Expander.rawTextsOfAll_eq_flatMap, List.forall_mem_flatMap]
    exact fun child member => fits _ (Arguments.mem_of_expandersFrom found member)
  | each =>
    obtain ⟨_, _, built⟩ := ok_bind_iff.mp built
    obtain ⟨strict, _, built⟩ := ok_bind_iff.mp built
    obtain ⟨argument, found, built⟩ := ok_bind_iff.mp built
    obtain rfl := Except.ok.inj built
    exact pattern (Arguments.mem_of_first found)
  | structural =>
    obtain ⟨_, _, built⟩ := ok_bind_iff.mp built
    obtain ⟨argument, found, built⟩ := ok_bind_iff.mp built
    obtain rfl := Except.ok.inj built
    exact pattern (Arguments.mem_of_first found)
  | record | silent | impostor =>
    obtain rfl := Except.ok.inj built
    exact nothing
  | _ =>
    obtain ⟨t, tested, rfl⟩ := ok_of_map built
    obtain ⟨_, rfl⟩ := plainTest_ok_iff.mp tested
    exact nothing

end Kind

/-- The log that an expander leaves that is held against values, in order, for the first time. -/
def Expander.trace (e : Expander) (values : List Value) : Log :=
  let (log, journal) := Journal.empty.addLog
  (e.runAll .fresh values journal).2.log log

theorem Expander.toList_trace {e : Expander} (same : e.inLog 0 = e) (values : List Value) :
    (e.trace values).toList = values.flatMap fun v => (e.visit v).entries := by
  have runs := @runAll_eq e 0 .fresh e.settled_fresh values Journal.empty.addLog.2
  rw [same] at runs
  have recorded := @Journal.contents_recordAll_self Journal.empty.addLog.2 0 (by decide)
    (values.flatMap fun v => (e.visit v).entries)
  rw [trace, ← List.nil_append (values.flatMap _)]
  simp only [runs]
  exact recorded

namespace Registry
variable {registry : Registry} {kinds : List Kind} {node : Node} {log : LogId} {e : Expander}

theorem unbroken_of_resolve (binds : registry.Binds kinds)
    (literals : ∀ text ∈ node.rawTexts, Unbroken text)
    (resolved : (registry.resolve node log).1 = .ok e) : ∀ text ∈ e.rawTexts, Unbroken text := by
  have inherits : registry.InheritsFrom log (fun v => ∀ text ∈ v.rawTexts, Unbroken text)
      (fun child => ∀ text ∈ child.rawTexts, Unbroken text) := by
    intro name implementation items e bound fits constructed
    obtain ⟨kind, _, builds⟩ := binds name implementation bound
    rw [construct_of_builds builds] at constructed
    exact Kind.unbroken_of_build fits constructed
  exact holds_of_proper inherits node 0 e (List.forall_mem_flatMap.mp literals) resolved

/-- The trace of a tree shows one line for each entry, in order, exactly if no error in it is
broken. This is so if no needle, regular expression, name of a property and key of a pattern, and no
key of a value has a line feed. The tree has none of these if none of its literals has it. -/
theorem trace_isLines (resolved : (standard.resolve node Journal.empty.addLog.1).1 = .ok e)
    (values : List Value) :
    (IsLines (e.trace values).lines (e.trace values).text.toList ↔
      ∀ entry ∈ (e.trace values).toList, ∀ error, entry.error? = some error → Unbroken error) ∧
    ((∀ v ∈ values, e.Unbreaking v) →
      IsLines (e.trace values).lines (e.trace values).text.toList) ∧
    ((∀ text ∈ node.rawTexts, Unbroken text) → ∀ text ∈ e.rawTexts, Unbroken text) := by
  have binds := (Within.standard (List.Subset.refl Kind.builtin)).binds
  have entries := Expander.toList_trace (inLog_of_resolve binds.familiar resolved) values
  have decides : IsLines (e.trace values).lines (e.trace values).text.toList ↔
      ∀ entry ∈ (e.trace values).toList, ∀ error, entry.error? = some error → Unbroken error := by
    rw [Log.isLines_text_iff]
    refine forall₂_congr fun entry member => ?_
    rw [entries] at member
    obtain ⟨v, _, inside⟩ := List.mem_flatMap.mp member
    exact Entry.unbroken_text_iff (Expander.unbroken_expander_of_mem_entries entry inside)
  refine ⟨decides, fun plain => decides.mpr fun entry member => ?_,
    fun literals => unbroken_of_resolve binds literals resolved⟩
  rw [entries] at member
  obtain ⟨v, given, inside⟩ := List.mem_flatMap.mp member
  exact Expander.unbroken_error_of_mem_entries (plain v given) entry inside

/-- Line feeds in texts that are shown as values do not break a line. -/
theorem trace_isLines_of_pattern :
    let node : Node := ⟨"match", [.literal (.object [("k", .string "a\nb")])]⟩
    let e : Expander := .structural 0 (.literal (.object [("k", .string "a\nb")]))
    let values : List Value := [.object [("k", .string "c\nd")], .object [("k", .string "a\nb")]]
    (standard.resolve node Journal.empty.addLog.1).1 = .ok e ∧ (e.trace values).size = 4 ∧
      IsLines (e.trace values).lines (e.trace values).text.toList := by
  intro node e values
  have resolved : (standard.resolve node Journal.empty.addLog.1).1 = .ok e := rfl
  obtain ⟨_, plain, literals⟩ := trace_isLines resolved values
  have texts := literals (by decide)
  have keys : ∀ v ∈ values, v.UnbrokenKeys := by decide
  exact ⟨resolved, by decide +kernel, plain fun v given => ⟨texts, keys v given⟩⟩

/-- A line feed in a needle is told as it is: two entries are shown in three lines. -/
theorem needle_breaks_line :
    let node : Node := ⟨"startsWith", [.literal (.string "a\nb")]⟩
    let e : Expander := .test 0 (.startsWith "a\nb" false)
    let log := e.trace [.string "x"]
    (standard.resolve node Journal.empty.addLog.1).1 = .ok e ∧ log.size = 2 ∧
      (splitChars '\n' log.text.toList).length = 4 ∧ ¬ IsLines log.lines log.text.toList := by
  exact ⟨rfl, by decide +kernel⟩

end Registry
end MatchTree
