import MatchTree.Expander.Run

/-!
What a run of an expander amounts to, said without memories and journals.

A visit is one expander looking at one value: the visits made on its way, and how it ended.
Visits form a tree, and the entries of a visit are read off it: the entrance, the entries of
the visits inside one after the other, and the outcome.
-/

set_option autoImplicit false
namespace MatchTree

/-- An expander either reports an outcome or just answers. -/
inductive Ending
  | reported (outcome : Except String Unit)
  | unreported (accepted : Bool)

namespace Ending

def accepted : Ending → Bool
  | reported (.ok ()) => true
  | reported (.error _) => false
  | unreported accepted => accepted

def error : Ending → Option String
  | reported (.error error) => some error
  | _ => none

def stages : Ending → List Stage
  | reported (.ok ()) => [.succeed]
  | reported (.error error) => [.failed error]
  | unreported _ => []

end Ending

structure Visit where
  name : String
  value : Value
  inner : List Visit
  ending : Ending

namespace Visit

def accepted (visit : Visit) : Bool := visit.ending.accepted

def error (visit : Visit) : Option String := visit.ending.error

/-- The entries that end a visit. -/
def closing (visit : Visit) : List Entry :=
  visit.ending.stages.map fun stage => ⟨stage, visit.name, visit.value⟩

mutual

def entries : Visit → List Entry
  | ⟨name, value, inner, ending⟩ =>
    ⟨.entrance, name, value⟩ :: (entriesOfAll inner ++ closing ⟨name, value, inner, ending⟩)

def entriesOfAll : List Visit → List Entry
  | [] => []
  | visit :: rest => visit.entries ++ entriesOfAll rest

end

mutual

/-- How many expanders were run, each as often as it was. -/
def calls : Visit → Nat
  | ⟨_, _, inner, _⟩ => callsOfAll inner + 1

def callsOfAll : List Visit → Nat
  | [] => 0
  | visit :: rest => visit.calls + callsOfAll rest

end

mutual

/-- Every expander on the way reported its outcome. -/
def Complete : Visit → Prop
  | ⟨_, _, inner, ending⟩ => CompleteAll inner ∧ ∃ outcome, ending = .reported outcome

def CompleteAll : List Visit → Prop
  | [] => True
  | visit :: rest => visit.Complete ∧ CompleteAll rest

end

/-- What passes from the visits made on the way to a visit holds of every visit. -/
theorem inductionOn {motive : Visit → Prop}
    (intro : ∀ name value inner ending, (∀ visit ∈ inner, motive visit) →
      motive ⟨name, value, inner, ending⟩) (visit : Visit) : motive visit :=
  @Visit.rec motive (fun inner => ∀ visit ∈ inner, motive visit) intro nofun
    (fun _ _ first rest => List.forall_mem_cons.mpr ⟨first, rest⟩) visit

theorem entries_eq (visit : Visit) :
    visit.entries =
      ⟨.entrance, visit.name, visit.value⟩ :: (entriesOfAll visit.inner ++ visit.closing) := by
  obtain ⟨name, value, inner, ending⟩ := visit
  rfl

theorem entriesOfAll_eq_flatMap (visits : List Visit) :
    entriesOfAll visits = visits.flatMap entries := by
  induction visits with
  | nil => rfl
  | cons visit rest ih => rw [entriesOfAll, List.flatMap_cons, ih]

theorem entriesOfAll_append (first second : List Visit) :
    entriesOfAll (first ++ second) = entriesOfAll first ++ entriesOfAll second := by
  simp only [entriesOfAll_eq_flatMap, List.flatMap_append]

end Visit

/-- What a check has come to, with the visits made on the way. -/
structure Survey where
  inner : List Visit
  outcome : Except String Unit

namespace Expander

/-- The error that a visit leaves; if it leaves none, a text made from its name. -/
def reasonOr (visit : Visit) (otherwise : String → String) : String :=
  visit.error.getD (otherwise visit.name)

/-- Holds items against a pattern up to the first that is refused; `index` is that of the
first item. -/
def visitItems (check : Value → Survey) (index : Nat) : List Value → Survey
  | [] => ⟨[], .ok ()⟩
  | item :: rest =>
    let survey := check item
    match survey.outcome with
    | .ok () =>
      let later := visitItems check (index + 1) rest
      ⟨survey.inner ++ later.inner, later.outcome⟩
    | .error error => ⟨survey.inner, .error (Mismatch.atItem index error).message⟩

mutual

/-- What running an expander on a value amounts to. -/
def visit : Expander → Value → Visit
  | .test _ t, v => ⟨t.title, v, [], .reported ((t.check v).mapError Mismatch.message)⟩
  | .oneOf _ children, v =>
    let survey := visitFirst children v []
    ⟨"oneOf", v, survey.inner, .reported survey.outcome⟩
  | .each _ pattern strict, v =>
    match v with
    | .array items =>
      let survey := visitItems (visitPattern pattern strict) 0 items
      ⟨"repeat", .array items, survey.inner, .reported survey.outcome⟩
    -- what is no array is refused before any item is looked at
    | v => ⟨"repeat", v, [], .reported (.error (Mismatch.notArray v).message)⟩
  | .structural _ pattern, v =>
    let survey := visitPattern pattern false v
    ⟨"match", v, survey.inner, .reported survey.outcome⟩
  | .record _ _ _, v => ⟨"record", v, [], .reported (.ok ())⟩
  | .silent _, v => ⟨"silent", v, [], .unreported false⟩
  | .impostor _, v => ⟨"startsWith", v, [], .unreported true⟩

/-- Visits children in order up to the first that accepts. -/
def visitFirst : List Expander → Value → (errors : List String) → Survey
  | [], _, errors => ⟨[], .error (Mismatch.noneMatched errors).message⟩
  | child :: rest, v, errors =>
    let first := child.visit v
    if first.accepted then ⟨[first], .ok ()⟩
    else
      let later := visitFirst rest v
        (errors ++ [reasonOr first fun name => s!"#{name} did not match"])
      ⟨first :: later.inner, later.outcome⟩

def visitPattern : Argument Expander → (strict : Bool) → Value → Survey
  | .literal pattern, strict, v =>
    ⟨[], (Structure.compare strict pattern v).mapError Mismatch.message⟩
  | .nested child, _, v =>
    let only := child.visit v
    ⟨[only], if only.accepted then .ok ()
      else .error (reasonOr only fun name => (Mismatch.rejected v name).message)⟩

end

def accepts (e : Expander) (v : Value) : Bool := (e.visit v).accepted

@[simp] theorem name_visit (e : Expander) (v : Value) : (e.visit v).name = e.name := by
  cases e with
  | each log pattern strict => cases v <;> rfl
  | _ => rfl

@[simp] theorem value_visit (e : Expander) (v : Value) : (e.visit v).value = v := by
  cases e with
  | each log pattern strict => cases v <;> rfl
  | _ => rfl

end Expander
end MatchTree
