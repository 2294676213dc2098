import Mathlib.Data.List.Forall2
import MatchTree.Expander.Arguments

/-!
Expanders in the place of others.

Two expanders that stand for each other in some way are nested in the same places of two trees.
Then what is built around them stands for each other as well, or is refused for the same reason,
if building keeps to that way: it is a congruence.
-/

set_option autoImplicit false
namespace MatchTree

/-- Both fail, for reasons that correspond, or both succeed, with results that do. -/
inductive Corresponds {ε ε' α β : Type} (f : ε → ε') (R : α → β → Prop) :
    Except ε α → Except ε' β → Prop
  | failed (reason : ε) : Corresponds f R (.error reason) (.error (f reason))
  | built {a : α} {b : β} (related : R a b) : Corresponds f R (.ok a) (.ok b)

namespace Corresponds
variable {ε ε' α β γ δ : Type} {f : ε → ε'} {R : α → β → Prop} {S : γ → δ → Prop}
  {first : Except ε α} {second : Except ε' β}

theorem bind {next : α → Except ε γ} {next' : β → Except ε' δ}
    (corresponds : Corresponds f R first second)
    (later : ∀ a b, R a b → Corresponds f S (next a) (next' b)) :
    Corresponds f S (first >>= next) (second >>= next') := by
  cases corresponds with
  | failed reason => exact .failed reason
  | built related => exact later _ _ related

theorem map {g : α → γ} {g' : β → δ} (corresponds : Corresponds f R first second)
    (later : ∀ a b, R a b → S (g a) (g' b)) : Corresponds f S (first.map g) (second.map g') := by
  cases corresponds with
  | failed reason => exact .failed reason
  | built related => exact .built (later _ _ related)

/-- Only the first is worked on further. -/
theorem map_left {S : γ → β → Prop} {g : α → γ} (corresponds : Corresponds f R first second)
    (later : ∀ a b, first = .ok a → R a b → S (g a) b) : Corresponds f S (first.map g) second := by
  cases corresponds with
  | failed reason => exact .failed reason
  | built related => exact .built (later _ _ rfl related)

theorem of_mapError {outcome : Except ε α} {outcome' : Except ε' α}
    (same : outcome' = outcome.mapError f) : Corresponds f Eq outcome outcome' := by
  subst same
  cases outcome with
  | error reason => exact .failed reason
  | ok a => exact .built rfl

/-- One is made from the other. -/
theorem eq_mapError {g : α → β} (corresponds : Corresponds f (fun a b => b = g a) first second) :
    second = (first.map g).mapError f := by
  cases corresponds with
  | failed reason => rfl
  | built related => exact congrArg Except.ok related

end Corresponds

theorem mapError_bind {α β ε ε' : Type} (f : ε → ε') (first : Except ε α)
    (next : α → Except ε β) :
    (first >>= next).mapError f = first.mapError f >>= fun a => (next a).mapError f := by
  cases first <;> rfl

/-- The same failure under another name of the expander that it is about. -/
def Failure.renamed (r : String → String) : Failure → Failure
  | unknownExpander name => unknownExpander (r name)
  | invalidExpanderType name typeName => invalidExpanderType (r name) typeName
  | argumentCount expander min max got => argumentCount (r expander) min max got
  | invalidArgument expander fault => invalidArgument (r expander) fault
  | invalidPattern expander pattern reason => invalidPattern (r expander) pattern reason
  -- the others are about no expander of a tree
  | undefinedExpander name => undefinedExpander name
  | unknownImplementation identifier => unknownImplementation identifier
  | invalidConfig reason => invalidConfig reason

theorem Failure.renamed_id (failure : Failure) : failure.renamed id = failure := by
  cases failure <;> rfl

/-- The same literal, or nested things that are related. -/
inductive Argument.Related {α β : Type} (R : α → β → Prop) : Argument α → Argument β → Prop
  | literal (v : Value) : Related R (.literal v) (.literal v)
  | nested {a : α} {b : β} (related : R a b) : Related R (.nested a) (.nested b)

namespace Expander

/-- What is made of related parts, in one log and in the other, is related. -/
structure Congruence (log log' : LogId) (R : Expander → Expander → Prop) : Prop where
  test : ∀ t, R (.test log t) (.test log' t)
  oneOf : ∀ {children children'}, List.Forall₂ R children children' →
    R (.oneOf log children) (.oneOf log' children')
  each : ∀ {pattern pattern'} strict, Argument.Related R pattern pattern' →
    R (.each log pattern strict) (.each log' pattern' strict)
  structural : ∀ {pattern pattern'}, Argument.Related R pattern pattern' →
    R (.structural log pattern) (.structural log' pattern')
  record : ∀ literals nested, R (.record log literals nested) (.record log' literals nested)
  silent : R (.silent log) (.silent log')
  impostor : R (.impostor log) (.impostor log')

end Expander

namespace Arguments
variable {R : Expander → Expander → Prop} {items items' : List (Argument Expander)}

theorem related_getElem? {α β : Type} {R : α → β → Prop} {items : List (Argument α)}
    {items' : List (Argument β)} (related : List.Forall₂ (Argument.Related R) items items')
    (position : Nat) : Option.Rel (Argument.Related R) items[position]? items'[position]? := by
  induction related generalizing position with
  | nil => exact .none
  | cons here _ ih =>
    cases position with
    | zero => exact .some here
    | succ position => exact ih position

section
variable (related : List.Forall₂ (Argument.Related R) items items') (r : String → String)
  (name : String)
include related

theorem checkCount_related (min : Nat) (max : Option Nat) :
    checkCount ⟨r name, items'⟩ min max =
      (checkCount ⟨name, items⟩ min max).mapError (Failure.renamed r) := by
  simp only [checkCount, ← related.length_eq, apply_ite (Except.mapError (Failure.renamed r))]
  rfl

theorem literal_related (position : Nat) :
    literal ⟨r name, items'⟩ position =
      (literal ⟨name, items⟩ position).mapError (Failure.renamed r) := by
  have found := related_getElem? related position
  rw [literal, literal]
  revert found
  generalize items[position]? = here, items'[position]? = there
  rintro (⟨v | _⟩ | _) <;> rfl

theorem string_related (position : Nat) :
    string ⟨r name, items'⟩ position =
      (string ⟨name, items⟩ position).mapError (Failure.renamed r) := by
  simp only [string, literal_related related r name, mapError_bind]
  refine bind_congr fun v => ?_
  cases v.asString <;> rfl

theorem number_related (position : Nat) :
    number ⟨r name, items'⟩ position =
      (number ⟨name, items⟩ position).mapError (Failure.renamed r) := by
  simp only [number, literal_related related r name, mapError_bind]
  refine bind_congr fun v => ?_
  cases v.asNumber <;> rfl

theorem int_related (position : Nat) :
    int ⟨r name, items'⟩ position =
      (int ⟨name, items⟩ position).mapError (Failure.renamed r) := by
  simp only [int, literal_related related r name, mapError_bind]
  refine bind_congr fun v => ?_
  cases v.asInt <;> rfl

theorem flag_related (position : Nat) (otherwise : Bool) :
    flag ⟨r name, items'⟩ position otherwise =
      (flag ⟨name, items⟩ position otherwise).mapError (Failure.renamed r) := by
  unfold flag
  simp only [← related.length_eq]
  split
  · rfl
  · rw [literal_related related, mapError_bind]
    refine bind_congr fun v => ?_
    cases v.asBool <;> rfl

theorem first_related :
    Corresponds (Failure.renamed r) (Argument.Related R) (first ⟨name, items⟩)
      (first ⟨r name, items'⟩) := by
  cases related with
  | nil => exact .failed _
  | cons here _ => exact .built here

theorem expandersFrom_related {all all' : List (Argument Expander)} (position : Nat) :
    Corresponds (Failure.renamed r) (List.Forall₂ R) (expandersFrom ⟨name, all⟩ position items)
      (expandersFrom ⟨r name, all'⟩ position items') := by
  induction related generalizing position with
  | nil => exact .built .nil
  | cons here _ ih =>
    cases here with
    | literal v => exact .failed _
    | nested here => exact (ih (position + 1)).bind fun _ _ later => .built (.cons here later)

theorem expanders_related :
    Corresponds (Failure.renamed r) (List.Forall₂ R) (expanders ⟨name, items⟩)
      (expanders ⟨r name, items'⟩) :=
  expandersFrom_related related r name 0

theorem literals_related : literals ⟨r name, items'⟩ = literals ⟨name, items⟩ := by
  unfold literals
  induction related with
  | nil => rfl
  | cons here _ ih => cases here <;> simp [ih]

end
end Arguments
end MatchTree
