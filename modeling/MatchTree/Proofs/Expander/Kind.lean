import MatchTree.Expander.Kind
import MatchTree.Proofs.Expander.Block
import MatchTree.Proofs.Expander.Correspondence

/-!
What a kind builds. From arguments that correspond it builds what corresponds, or is refused for
one reason. So the log it is built for shows in nothing else, and the name it is built under only
in why it cannot be built.
-/

set_option autoImplicit false
namespace MatchTree

theorem ok_bind_iff {ε α β : Type} {first : Except ε α} {next : α → Except ε β} {b : β} :
    first >>= next = .ok b ↔ ∃ a, first = .ok a ∧ next a = .ok b := by
  cases first <;> simp [bind, Except.bind]

theorem ok_of_map {α β : Type} {first : Except Failure α} {f : α → β} {b : β}
    (done : first.map f = .ok b) : ∃ a, first = .ok a ∧ f a = b := by
  cases first with
  | error failure => contradiction
  | ok a => exact ⟨a, rfl, Except.ok.inj done⟩

namespace Arguments
variable {arguments : Arguments}

theorem checkCount_ok_iff {min : Nat} {max : Option Nat} :
    arguments.checkCount min max = .ok () ↔
      min ≤ arguments.items.length ∧ ∀ most ∈ max, arguments.items.length ≤ most := by
  cases max <;> simp [checkCount]

theorem checkCount_of_outside {min : Nat} {max : Option Nat}
    (outside : ¬ (min ≤ arguments.items.length ∧ ∀ most ∈ max, arguments.items.length ≤ most)) :
    arguments.checkCount min max =
      .error (.argumentCount arguments.expander min max arguments.items.length) := by
  rw [checkCount]
  refine if_pos ?_
  cases max <;> simp at outside ⊢ <;> omega

theorem mem_of_first {argument : Argument Expander} (found : arguments.first = .ok argument) :
    argument ∈ arguments.items := by
  obtain ⟨expander, items⟩ := arguments
  cases items with
  | nil => contradiction
  | cons head rest =>
    obtain rfl := Except.ok.inj found
    exact List.mem_cons_self

theorem mem_of_literal {position : Nat} {v : Value} (found : arguments.literal position = .ok v) :
    .literal v ∈ arguments.items := by
  rw [literal] at found
  split at found
  case h_1 w here => exact Except.ok.inj found ▸ List.mem_of_getElem? here
  all_goals contradiction

theorem mem_of_string {position : Nat} {s : String} (found : arguments.string position = .ok s) :
    .literal (.string s) ∈ arguments.items := by
  obtain ⟨v, read, found⟩ := ok_bind_iff.mp found
  cases v with
  | string text => exact Except.ok.inj found ▸ mem_of_literal read
  | _ => contradiction

/-- All arguments are nested exactly if none is a literal. -/
theorem expandersFrom_ok_iff {position : Nat} {items : List (Argument Expander)}
    {children : List Expander} :
    arguments.expandersFrom position items = .ok children ↔ items = children.map .nested := by
  induction items generalizing position children with
  | nil => cases children <;> simp [expandersFrom]
  | cons argument rest ih =>
    cases argument with
    | literal v => cases children <;> simp [expandersFrom, invalid]
    | nested e =>
      rw [expandersFrom, ok_bind_iff]
      constructor
      · rintro ⟨others, found, done⟩
        obtain rfl := Except.ok.inj done
        rw [ih.mp found, List.map_cons]
      · intro same
        cases children with
        | nil => contradiction
        | cons child children =>
          obtain ⟨here, later⟩ := List.cons.inj same
          obtain rfl := Argument.nested.inj here
          exact ⟨children, ih.mpr later, rfl⟩

theorem mem_of_expandersFrom {position : Nat} {items : List (Argument Expander)}
    {children : List Expander} (found : arguments.expandersFrom position items = .ok children)
    {child : Expander} (member : child ∈ children) : .nested child ∈ items := by
  rw [expandersFrom_ok_iff.mp found]
  exact List.mem_map_of_mem member

end Arguments

namespace Kind

section
variable {R : Expander → Expander → Prop} {items items' : List (Argument Expander)}
  (related : List.Forall₂ (Argument.Related R) items items') (r : String → String) (name : String)
include related

theorem plainTest_related (test : Test) :
    plainTest test ⟨r name, items'⟩ =
      (plainTest test ⟨name, items⟩).mapError (Failure.renamed r) := by
  simp only [plainTest, Arguments.checkCount_related related r name, mapError_bind]
  rfl

theorem needleTest_related (test : String → Bool → Test) :
    needleTest test ⟨r name, items'⟩ =
      (needleTest test ⟨name, items⟩).mapError (Failure.renamed r) := by
  simp only [needleTest, Arguments.checkCount_related related r name,
    Arguments.flag_related related r name, Arguments.string_related related r name, mapError_bind]
  rfl

theorem regexTest_related :
    regexTest ⟨r name, items'⟩ = (regexTest ⟨name, items⟩).mapError (Failure.renamed r) := by
  simp only [regexTest, Arguments.checkCount_related related r name,
    Arguments.string_related related r name, mapError_bind]
  refine bind_congr fun _ => bind_congr fun pattern => ?_
  cases Regex.compile pattern <;> rfl

theorem numberTest_related (test : Finite → Test) :
    numberTest test ⟨r name, items'⟩ =
      (numberTest test ⟨name, items⟩).mapError (Failure.renamed r) := by
  simp only [numberTest, Arguments.checkCount_related related r name,
    Arguments.number_related related r name, mapError_bind]
  rfl

theorem countTest_related :
    countTest ⟨r name, items'⟩ = (countTest ⟨name, items⟩).mapError (Failure.renamed r) := by
  simp only [countTest, Arguments.checkCount_related related r name,
    Arguments.int_related related r name, mapError_bind]
  refine bind_congr fun _ => bind_congr fun i => ?_
  split <;> rfl

theorem momentTest_related (test : Moment → Test) :
    momentTest test ⟨r name, items'⟩ =
      (momentTest test ⟨name, items⟩).mapError (Failure.renamed r) := by
  simp only [momentTest, Arguments.checkCount_related related r name,
    Arguments.string_related related r name, mapError_bind]
  refine bind_congr fun _ => bind_congr fun written => ?_
  cases Moment.read? written <;> rfl

/-- What a kind builds keeps to a congruence. -/
theorem build_related {log log' : LogId} (congruence : Expander.Congruence log log' R)
    (kind : Kind) :
    Corresponds (Failure.renamed r) R (kind.build ⟨name, items⟩ log)
      (kind.build ⟨r name, items'⟩ log') := by
  -- what looks at the value alone is built without regard to nested arguments
  have leaf {test test' : Except Failure Test} (same : test' = test.mapError (Failure.renamed r)) :
      Corresponds (Failure.renamed r) R (test.map (.test log)) (test'.map (.test log')) :=
    (Corresponds.of_mapError same).map fun t _ same => same ▸ congruence.test t
  have counted (min : Nat) (max : Option Nat) :=
    Corresponds.of_mapError (Arguments.checkCount_related related r name min max)
  cases kind with
  | startsWith | endsWith | contains | notContains =>
    exact leaf (needleTest_related related r name _)
  | matchRegex => exact leaf (regexTest_related related r name)
  | greaterThan | lowerThan => exact leaf (numberTest_related related r name _)
  | count => exact leaf (countTest_related related r name)
  | after | before => exact leaf (momentTest_related related r name _)
  | inArray =>
    refine leaf ?_
    simp only [Arguments.checkCount_related related r name,
      Arguments.literal_related related r name, mapError_bind]
    rfl
  | hasProperty =>
    refine leaf ?_
    simp only [Arguments.checkCount_related related r name,
      Arguments.string_related related r name, mapError_bind]
    rfl
  | oneOf =>
    refine (counted 2 none).bind fun _ _ _ => ?_
    refine (Arguments.expanders_related related r name).bind fun _ _ nested => ?_
    exact .built (congruence.oneOf nested)
  | each =>
    have flagged := Corresponds.of_mapError (Arguments.flag_related related r name 1 true)
    refine (counted 1 (some 2)).bind fun _ _ _ => flagged.bind fun strict _ same => ?_
    subst same
    refine (Arguments.first_related related r name).bind fun _ _ nested => ?_
    exact .built (congruence.each strict nested)
  | structural =>
    refine (counted 1 (some 1)).bind fun _ _ _ => ?_
    refine (Arguments.first_related related r name).bind fun _ _ nested => ?_
    exact .built (congruence.structural nested)
  | record =>
    simp only [build, Arguments.literals_related related r name, ← related.length_eq]
    exact .built (congruence.record _ _)
  | silent => exact .built congruence.silent
  | impostor => exact .built congruence.impostor
  | _ => exact leaf (plainTest_related related r name _)

end

/-- What is built reports if the kind does and what it is built from does. -/
theorem reporting_of_build {kind : Kind} {arguments : Arguments} {log : LogId} {e : Expander}
    (heard : kind ≠ silent ∧ kind ≠ impostor)
    (items : ∀ child, .nested child ∈ arguments.items → child.Reporting)
    (built : kind.build arguments log = .ok e) : e.Reporting := by
  have leaf {test : Except Failure Test} (made : test.map (Expander.test log) = .ok e) :
      e.Reporting := by
    obtain ⟨t, _, rfl⟩ := ok_of_map made
    trivial
  have pattern {argument : Argument Expander} (member : argument ∈ arguments.items) :
      Expander.ReportingArgument argument := by
    cases argument with
    | literal v => trivial
    | nested child => exact items child member
  cases kind with
  | silent => exact absurd rfl heard.1
  | impostor => exact absurd rfl heard.2
  | record =>
    obtain rfl := Except.ok.inj built
    trivial
  | oneOf =>
    obtain ⟨_, _, built⟩ := ok_bind_iff.mp built
    obtain ⟨children, found, built⟩ := ok_bind_iff.mp built
    obtain rfl := Except.ok.inj built
    exact Expander.reportingAll_iff.mpr fun child member =>
      items _ (Arguments.mem_of_expandersFrom found member)
  | each =>
    obtain ⟨_, _, built⟩ := ok_bind_iff.mp built
    obtain ⟨strict, _, built⟩ := ok_bind_iff.mp built
    obtain ⟨argument, found, built⟩ := ok_bind_iff.mp built
    obtain rfl := Except.ok.inj built
    exact pattern (Arguments.mem_of_first found)
  | structural =>
    obtain ⟨_, _, built⟩ := ok_bind_iff.mp built
    obtain ⟨argument, found, built⟩ := ok_bind_iff.mp built
    obtain rfl := Except.ok.inj built
    exact pattern (Arguments.mem_of_first found)
  | _ => exact leaf built

end Kind
end MatchTree
