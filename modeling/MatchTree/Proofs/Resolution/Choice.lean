import MatchTree.Proofs.Registry.Change
import MatchTree.Proofs.Resolution.Made

/-!
What a `oneOf` makes of its children.

A run tries them in order and stops at the first that accepts, and each that it tries answers as it
would by itself. So whether the `oneOf` accepts is decided by which answers there are among its
children: their order and number do not matter, nor whether some of them are the children of
another `oneOf` among them.
-/

set_option autoImplicit false
namespace MatchTree
namespace Expander

/-! ## Runs -/

/-- What is told of a child that refuses a value. -/
def refusal (v : Value) (child : Expander) : String :=
  (child.answer v).error.getD s!"#{child.name} did not match"

/-- The children that are tried on a value: those up to the first that accepts. -/
def tried (children : List Expander) (v : Value) : List Expander :=
  upTo (fun child => (child.answer v).accepted) children

theorem reasonOr_eq_refusal (child : Expander) (v : Value) :
    reasonOr (child.visit v) (fun name => s!"#{name} did not match") = refusal v child := by
  rw [reasonOr, refusal, answer_eq, name_visit]
  rfl

theorem outcome_visitFirst (children : List Expander) (v : Value) (errors : List String) :
    (visitFirst children v errors).outcome =
      if children.any (fun child => (child.answer v).accepted) then .ok ()
      else .error (Mismatch.noneMatched (errors ++ children.map (refusal v))).message := by
  induction children generalizing errors with
  | nil => simp [visitFirst]
  | cons child rest ih =>
    rw [visitFirst, List.any_cons, accepted_answer, accepts]
    cases (child.visit v).accepted with
    | true => rfl
    | false =>
      simp only [Bool.false_eq_true, if_false, Bool.false_or, ih, reasonOr_eq_refusal,
        List.map_cons, List.append_assoc, List.singleton_append]

theorem entriesOfAll_visitFirst (children : List Expander) (v : Value) (errors : List String) :
    Visit.entriesOfAll (visitFirst children v errors).inner =
      (tried children v).flatMap fun child => (child.answer v).entries := by
  have same : (fun child : Expander => (child.answer v).accepted) = fun child => child.accepts v :=
    funext fun child => accepted_answer v
  rw [inner_visitFirst, Visit.entriesOfAll_eq_flatMap, List.flatMap_map, tried, same]
  simp only [answer_eq, Visit.answer]

/-- Each child that is tried remembers the error of its answer afterwards. -/
theorem memories_runFirst {log : LogId} {v : Value} {child : Expander} :
    ∀ (children : List Expander) (memories : List Memory) (errors : List String)
      (journal : Journal) (i : Nat), SettledAll children memories →
      (tried children v)[i]? = some child →
        (runFirst (inLogAll log children) memories v errors journal).memories[i]?.map Memory.error =
          some (child.answer v).error
  | [], _, _, _, _, _, found => by simp [tried, upTo] at found
  | first :: rest, memories, errors, journal, i, ⟨here, others⟩, found => by
    -- the first child is tried in any case, and the rest are if it refuses
    have shows := (@run_shows log first (Memory.first memories) v journal here).1
    have error : (first.answer v).error = (first.visit v).error :=
      congrArg Answer.error (first.answer_eq v)
    rw [tried, upTo, accepted_answer, accepts] at found
    cases answer : (first.visit v).accepted with
    | true =>
      simp only [inLogAll, runFirst, shows.accepted, answer, if_true] at found ⊢
      obtain ⟨rfl, rfl⟩ : i = 0 ∧ first = child := by
        cases i with
        | zero => exact ⟨rfl, Option.some.inj found⟩
        | succ i => contradiction
      exact congrArg some (shows.error.trans error.symm)
    | false =>
      simp only [inLogAll, runFirst, shows.accepted, answer, Bool.false_eq_true, if_false]
        at found ⊢
      cases i with
      | zero =>
        obtain rfl := Option.some.inj found
        exact congrArg some (shows.error.trans error.symm)
      | succ i => exact memories_runFirst rest _ _ _ i others found

/-- A run of a `oneOf` came out as its children answer by themselves. -/
structure Chooses (log : LogId) (children : List Expander) (v : Value) (memory : Memory)
    (journal : Journal) : Prop where
  accepted : ((oneOf log children).run memory v journal).accepted = true ↔
    ∃ child ∈ children, (child.answer v).accepted = true
  leaves : ∃ stage, Leaves log (oneOf log children) v
    (⟨.entrance, "oneOf", v⟩ :: ((tried children v).flatMap (fun child => (child.answer v).entries) ++
      [⟨stage, "oneOf", v⟩])) stage memory journal
  remembered : ∀ (i : Nat) (child : Expander), (tried children v)[i]? = some child →
    ((oneOf log children).run memory v journal).memory.children[i]?.map Memory.error =
      some (child.answer v).error
  refused : (∀ child ∈ children, (child.answer v).accepted = false) →
    ((oneOf log children).run memory v journal).error = some
      ("none of the expanders matched: " ++ "; ".intercalate (children.map (refusal v)))

variable {log : LogId} {children : List Expander}

theorem accepted_answer_oneOf (v : Value) :
    ((oneOf log children).answer v).accepted = true ↔
      ∃ child ∈ children, (child.answer v).accepted = true := by
  rw [accepted_answer, accepts, visit, Visit.accepted, outcome_visitFirst, ← List.any_eq_true]
  cases children.any (fun child => (child.answer v).accepted) <;> simp [Ending.accepted]

theorem chooses_of_recalls (same : (oneOf log children).inLog log = oneOf log children)
    {memory : Memory} (recalls : (oneOf log children).Recalls memory) (v : Value)
    (journal : Journal) : Chooses log children v memory journal where
  accepted := by rw [recalls.accepted same, accepted_answer_oneOf]
  leaves := by
    have reported : ((oneOf log children).visit v).ending =
      .reported (visitFirst children v []).outcome := rfl
    obtain ⟨stage, entries, leaves⟩ := leaves_of_reported same reported
    refine ⟨stage, ?_⟩
    have left := leaves memory journal (recalls.settled same)
    rw [entries] at left
    rw [← entriesOfAll_visitFirst children v []]
    exact left
  remembered i child found := by
    have settled : SettledAll children memory.children := recalls.settled same
    have remembered := @memories_runFirst log v child children memory.children []
      (enter "oneOf" log v journal) i settled found
    rwa [(oneOf.inj same).2] at remembered
  refused none := by
    have all : children.any (fun child => (child.answer v).accepted) = false := by
      simpa using none
    have error := (recalls.shows same v journal).error
    rw [error, visit, Visit.error, outcome_visitFirst, all]
    rfl

/-- Both accept a value or both refuse it, whatever they were run on before. -/
def AcceptsAs (v : Value) (e e' : Expander) : Prop :=
  ∀ memory memory' journal journal', e.Recalls memory → e'.Recalls memory' →
    (e'.run memory' v journal').accepted = (e.run memory v journal).accepted

end Expander

theorem Kind.build_oneOf_ok_iff {arguments : Arguments} {log : LogId} {e : Expander} :
    Kind.oneOf.build arguments log = .ok e ↔ ∃ children,
      arguments.items = children.map .nested ∧ 2 ≤ children.length ∧ e = .oneOf log children := by
  rw [build]
  constructor
  · intro built
    obtain ⟨_, counted, built⟩ := ok_bind_iff.mp built
    obtain ⟨children, found, built⟩ := ok_bind_iff.mp built
    have items := Arguments.expandersFrom_ok_iff.mp found
    have enough := (Arguments.checkCount_ok_iff.mp counted).1
    rw [items, List.length_map] at enough
    exact ⟨children, items, enough, (Except.ok.inj built).symm⟩
  · rintro ⟨children, items, enough, rfl⟩
    have counted : arguments.checkCount 2 none = .ok () :=
      Arguments.checkCount_ok_iff.mpr ⟨by rwa [items, List.length_map], by simp⟩
    have found : arguments.expanders = .ok children := Arguments.expandersFrom_ok_iff.mpr items
    exact ok_bind_iff.mpr ⟨(), counted, ok_bind_iff.mpr ⟨children, found, rfl⟩⟩

namespace Registry
variable {registry : Registry} {name : String} {log : LogId} {arguments : List (Argument Node)}
  {children : List Expander} {e : Expander}

theorem StandsFor.makes_oneOf_iff (choice : registry.StandsFor name .oneOf) :
    registry.Makes log ⟨name, arguments⟩ e ↔ ∃ children, 2 ≤ children.length ∧
      List.Forall₂ (Argument.Related (registry.Makes log)) arguments (children.map .nested) ∧
        e = .oneOf log children := by
  rw [choice.makes_iff]
  constructor
  · rintro ⟨_, related, built⟩
    obtain ⟨children, rfl, enough, rfl⟩ := Kind.build_oneOf_ok_iff.mp built
    exact ⟨children, enough, related, rfl⟩
  · rintro ⟨children, enough, related, rfl⟩
    exact ⟨_, related, Kind.build_oneOf_ok_iff.mpr ⟨children, rfl, enough, rfl⟩⟩

/-! ## Children as written -/

/-- An argument is a tree that resolves. -/
def Resolvable (registry : Registry) (argument : Argument Node) : Prop :=
  ∃ node e, argument = .nested node ∧ registry.Makes 0 node e

/-- An argument is a tree that resolves and accepts a value. -/
def Accepting (registry : Registry) (v : Value) (argument : Argument Node) : Prop :=
  ∃ node e, argument = .nested node ∧ registry.Makes 0 node e ∧ (e.answer v).accepted = true

theorem exists_children_iff (familiar : registry.Familiar) (log : LogId) :
    (∃ children : List Expander,
      List.Forall₂ (Argument.Related (registry.Makes log)) arguments (children.map .nested)) ↔
      ∀ argument ∈ arguments, registry.Resolvable argument := by
  induction arguments with
  | nil => exact iff_of_true ⟨[], .nil⟩ nofun
  | cons argument rest ih =>
    rw [List.forall_mem_cons, ← ih]
    constructor
    · rintro ⟨children, related⟩
      cases children with
      | nil => contradiction
      | cons child children =>
        obtain ⟨here, later⟩ := List.forall₂_cons.mp related
        -- a tree that resolves for one log resolves for every other
        cases here with
        | nested made => exact ⟨⟨_, _, rfl, made.moved familiar 0⟩, children, later⟩
    · rintro ⟨⟨node, e, rfl, made⟩, children, later⟩
      exact ⟨e.inLog log :: children, .cons (.nested (made.moved familiar log)) later⟩

theorem exists_accepting_iff (familiar : registry.Familiar) (v : Value)
    (related : List.Forall₂ (Argument.Related (registry.Makes log)) arguments
      (children.map .nested)) :
    (∃ child ∈ children, (child.answer v).accepted = true) ↔
      ∃ argument ∈ arguments, registry.Accepting v argument := by
  induction arguments generalizing children with
  | nil =>
    obtain rfl : children = [] := List.map_eq_nil_iff.mp (List.forall₂_nil_left_iff.mp related)
    simp
  | cons argument rest ih =>
    cases children with
    | nil => contradiction
    | cons child children =>
      obtain ⟨here, later⟩ := List.forall₂_cons.mp related
      cases here with
      | @nested node _ made =>
        have same : (child.answer v).accepted = true ↔ registry.Accepting v (.nested node) := by
          have moved := made.moved familiar 0
          have answer := made.answer_eq familiar moved v
          constructor
          · exact fun accepted => ⟨node, _, rfl, moved, answer ▸ accepted⟩
          · rintro ⟨_, e, ⟨⟩, made', accepted⟩
            rwa [moved.unique made', answer] at accepted
        rw [List.exists_mem_cons_iff, List.exists_mem_cons_iff, same, ih later]

/-- A `oneOf` resolves if it has two arguments at least, and all of them are trees that do. -/
theorem StandsFor.oneOf_resolvable_iff (familiar : registry.Familiar)
    (choice : registry.StandsFor name .oneOf) (log : LogId) :
    (∃ e, registry.Makes log ⟨name, arguments⟩ e) ↔
      2 ≤ arguments.length ∧ ∀ argument ∈ arguments, registry.Resolvable argument := by
  simp only [choice.makes_oneOf_iff, ← exists_children_iff familiar log]
  constructor
  · rintro ⟨_, children, enough, related, rfl⟩
    refine ⟨?_, children, related⟩
    rwa [related.length_eq, List.length_map]
  · rintro ⟨enough, children, related⟩
    rw [related.length_eq, List.length_map] at enough
    exact ⟨_, children, enough, related, rfl⟩

/-- It accepts what one of them accepts. -/
theorem StandsFor.oneOf_accepting_iff (familiar : registry.Familiar)
    (choice : registry.StandsFor name .oneOf) (made : registry.Makes log ⟨name, arguments⟩ e)
    (v : Value) : (e.answer v).accepted = true ↔
      ∃ argument ∈ arguments, registry.Accepting v argument := by
  obtain ⟨children, _, related, rfl⟩ := choice.makes_oneOf_iff.mp made
  rw [Expander.accepted_answer_oneOf, exists_accepting_iff familiar v related]

theorem StandsFor.nested_accepting_iff (familiar : registry.Familiar)
    (choice : registry.StandsFor name .oneOf) (made : registry.Makes 0 ⟨name, arguments⟩ e)
    (v : Value) : registry.Accepting v (.nested ⟨name, arguments⟩) ↔
      ∃ argument ∈ arguments, registry.Accepting v argument := by
  rw [← choice.oneOf_accepting_iff familiar made v]
  constructor
  · rintro ⟨_, e', ⟨⟩, made', accepted⟩
    rwa [made.unique made'] at accepted
  · exact fun accepted => ⟨_, e, rfl, made, accepted⟩

theorem Makes.acceptsAs (familiar : registry.Familiar) {log' : LogId} {node node' : Node}
    {e' : Expander} (made : registry.Makes log node e) (made' : registry.Makes log' node' e')
    {v : Value} (same : (e'.answer v).accepted = true ↔ (e.answer v).accepted = true) :
    e.AcceptsAs v e' := by
  intro memory memory' journal journal' recalls recalls'
  rw [recalls.accepted (made.inLog_eq familiar), recalls'.accepted (made'.inLog_eq familiar)]
  exact Bool.eq_iff_iff.mpr same

/-- A `oneOf` runs its children up to the first that accepts, each once on the value, and reports
what they say; and it accepts alike in whatever order and how often its children are written, and
with another `oneOf` among them replaced by what it chooses from. -/
theorem oneOf_chooses (familiar : registry.Familiar) (choice : registry.StandsFor name .oneOf)
    (made : registry.Makes log ⟨name, arguments⟩ e) :
    ∃ children : List Expander, 2 ≤ children.length ∧ e = .oneOf log children ∧
      List.Forall₂ (Argument.Related (registry.Makes log)) arguments (children.map .nested) ∧
      (∀ v memory journal, e.Recalls memory → Expander.Chooses log children v memory journal) ∧
      (∀ (node' : Node) (log' : LogId) (children' : List Expander),
        registry.Makes log' node' (.oneOf log' children') → ∀ v,
        (∀ verdict, (∃ child ∈ children', (child.answer v).accepted = verdict) ↔
          ∃ child ∈ children, (child.answer v).accepted = verdict) →
        e.AcceptsAs v (.oneOf log' children')) ∧
      (∀ (arguments' : List (Argument Node)) (log' : LogId), 2 ≤ arguments'.length →
        (∀ argument, argument ∈ arguments' ↔ argument ∈ arguments) →
        ∃ e', registry.Makes log' ⟨name, arguments'⟩ e' ∧ ∀ v, e.AcceptsAs v e') ∧
      ∀ (front inside back : List (Argument Node)) (inner : String) (log' : LogId),
        registry.StandsFor inner .oneOf → arguments = front ++ .nested ⟨inner, inside⟩ :: back →
        ∃ e', registry.Makes log' ⟨name, front ++ inside ++ back⟩ e' ∧ ∀ v, e.AcceptsAs v e' := by
  obtain ⟨children, enough, related, rfl⟩ := choice.makes_oneOf_iff.mp made
  obtain ⟨enough', all⟩ := (choice.oneOf_resolvable_iff familiar log).mp ⟨_, made⟩
  refine ⟨children, enough, rfl, related, fun v memory journal recalls => ?_, ?_, ?_, ?_⟩
  · exact Expander.chooses_of_recalls (made.inLog_eq familiar) recalls v journal
  · intro node' log' children' made' v verdicts
    refine made.acceptsAs familiar made' ?_
    rw [Expander.accepted_answer_oneOf, Expander.accepted_answer_oneOf, verdicts true]
  · intro arguments' log' enough' members
    -- what resolves and what accepts is said of the members of the list alone
    obtain ⟨e', made'⟩ := (choice.oneOf_resolvable_iff familiar log').mpr
      ⟨enough', fun argument member => all argument ((members argument).mp member)⟩
    refine ⟨e', made', fun v => made.acceptsAs familiar made' ?_⟩
    simp only [choice.oneOf_accepting_iff familiar made, choice.oneOf_accepting_iff familiar made',
      members]
  · intro front inside back inner log' choice' written
    subst written
    have there : .nested ⟨inner, inside⟩ ∈ front ++ .nested ⟨inner, inside⟩ :: back :=
      List.mem_append_right front List.mem_cons_self
    obtain ⟨_, e₀, ⟨⟩, made₀⟩ := all _ there
    obtain ⟨enough₀, all₀⟩ := (choice'.oneOf_resolvable_iff familiar 0).mp ⟨e₀, made₀⟩
    obtain ⟨e', made'⟩ : ∃ e', registry.Makes log' ⟨name, front ++ inside ++ back⟩ e' := by
      refine (choice.oneOf_resolvable_iff familiar log').mpr ⟨?_, fun argument member => ?_⟩
      · -- the inner `oneOf` goes and two at least come in its place
        simp only [List.length_append]
        omega
      · rcases List.mem_append.mp member with before | after
        · rcases List.mem_append.mp before with before | within
          · exact all argument (List.mem_append_left _ before)
          · exact all₀ argument within
        · exact all argument (List.mem_append_right front (List.mem_cons_of_mem _ after))
    refine ⟨e', made', fun v => made.acceptsAs familiar made' ?_⟩
    -- to accept with one of the inner children is to accept with the inner `oneOf`
    rw [choice.oneOf_accepting_iff familiar made, choice.oneOf_accepting_iff familiar made']
    simp only [List.mem_append, List.mem_cons, or_and_right, exists_or, exists_eq_left, or_assoc,
      choice'.nested_accepting_iff familiar made₀]

/-- The children that record no outcome are told of by their names; the inner `oneOf` can be
replaced by its children. -/
theorem oneOf_chooses_of_silent :
    let registry : Registry := (standard.registerKind "silent" .silent).1
    let silent : Argument Node := .nested ⟨"silent", []⟩
    let empty : Argument Node := .nested ⟨"isEmpty", []⟩
    let arguments : List (Argument Node) := [silent, .nested ⟨"oneOf", [empty, silent]⟩]
    registry.Familiar ∧ registry.StandsFor "oneOf" .oneOf ∧
      ∃ e, registry.Makes 0 ⟨"oneOf", arguments⟩ e ∧
        (∀ memory journal, e.Recalls memory → (e.run memory (.bool true) journal).error =
          some ("none of the expanders matched: #silent did not match; " ++
            "none of the expanders matched: value true is not empty; #silent did not match")) ∧
        ∃ e', registry.Makes 1 ⟨"oneOf", [silent, empty, silent]⟩ e' ∧ ∀ v, e.AcceptsAs v e' := by
  intro registry silent empty arguments
  have familiar : registry.Familiar := familiar_registerKind_standard "silent" .silent
  have choice : registry.StandsFor "oneOf" .oneOf := ⟨.ofKind .oneOf, rfl, rfl⟩
  let children : List Expander := [.silent 0, .oneOf 0 [.test 0 .isEmpty, .silent 0]]
  have made : registry.Makes 0 ⟨"oneOf", arguments⟩ (.oneOf 0 children) := by rfl
  obtain ⟨children', _, same, _, runs, _, _, inner⟩ := oneOf_chooses familiar choice made
  obtain rfl : children = children' := (Expander.oneOf.inj same).2
  refine ⟨familiar, choice, _, made, fun memory journal recalls => ?_,
    inner [silent] [empty, silent] [] "oneOf" 1 choice rfl⟩
  have refused : ∀ child ∈ children, (child.answer (.bool true)).accepted = false := by
    simp only [children, List.forall_mem_cons]
    exact ⟨rfl, rfl, nofun⟩
  rw [(runs (.bool true) memory journal recalls).refused refused]
  decide +kernel

end Registry
end MatchTree
