import MatchTree.Proofs.Expander.Recall
import MatchTree.Proofs.Resolution.Kinds

/-!
What the expander of a tree is made of: the literals of its arguments, and what the trees among
them resolve to.
-/

set_option autoImplicit false
namespace MatchTree

/-- A first argument, and after it a flag or nothing. -/
def flagged {ε : Type} (first : Argument ε) (flag : Option Bool) : List (Argument ε) :=
  first :: (flag.map fun b => .literal (.bool b)).toList

theorem Arguments.flag_flagged (name : String) (first : Argument Expander) (flag : Option Bool)
    (otherwise : Bool) :
    Arguments.flag ⟨name, flagged first flag⟩ 1 otherwise = .ok (flag.getD otherwise) := by
  cases flag <;> rfl

theorem Arguments.checkCount_flagged (name : String) (first : Argument Expander)
    (flag : Option Bool) :
    Arguments.checkCount ⟨name, flagged first flag⟩ 1 (some 2) = .ok () := by
  cases flag <;> rfl

/-- One or two arguments are read as a first one and a flag in no other case. -/
theorem Arguments.exists_flagged {name : String} {items : List (Argument Expander)}
    {otherwise given : Bool} (counted : Arguments.checkCount ⟨name, items⟩ 1 (some 2) = .ok ())
    (read : Arguments.flag ⟨name, items⟩ 1 otherwise = .ok given) :
    ∃ first flag, items = flagged first flag ∧ given = flag.getD otherwise := by
  match items with
  | [] => contradiction
  | [first] => exact ⟨first, none, rfl, (Except.ok.inj read).symm⟩
  | [first, .nested _] => contradiction
  | [first, .literal v] =>
    cases v with
    | bool b => exact ⟨first, some b, rfl, (Except.ok.inj read).symm⟩
    | _ => contradiction
  | _ :: _ :: _ :: rest =>
    simp [checkCount] at counted

/-- A test without arguments is built from none. -/
theorem Kind.plainTest_ok_iff {test t : Test} {name : String} {items : List (Argument Expander)} :
    Kind.plainTest test ⟨name, items⟩ = .ok t ↔ items = [] ∧ t = test := by
  rw [Kind.plainTest, ok_bind_iff]
  constructor
  · rintro ⟨_, counted, built⟩
    obtain ⟨_, none⟩ := Arguments.checkCount_ok_iff.mp counted
    exact ⟨List.length_eq_zero_iff.mp (Nat.le_zero.mp (none 0 rfl)), (Except.ok.inj built).symm⟩
  · rintro ⟨rfl, rfl⟩
    exact ⟨(), rfl, rfl⟩

namespace Registry
variable {registry : Registry} {log : LogId} {node : Node} {e : Expander}

/-- A tree resolves to an expander that records in a log. -/
def Makes (registry : Registry) (log : LogId) (node : Node) (e : Expander) : Prop :=
  (registry.resolve node log).1 = .ok e

/-- A tree resolves, to whatever expander. -/
def Resolves (registry : Registry) (log : LogId) (node : Node) : Prop :=
  ∃ e, registry.Makes log node e

theorem Makes.unique {e' : Expander} (made : registry.Makes log node e)
    (made' : registry.Makes log node e') : e' = e :=
  Except.ok.inj (made'.symm.trans made)

theorem Makes.inLog_eq (familiar : registry.Familiar) (made : registry.Makes log node e) :
    e.inLog log = e :=
  inLog_of_resolve familiar made

theorem Makes.moved (familiar : registry.Familiar) (made : registry.Makes log node e)
    (log' : LogId) : registry.Makes log' node (e.inLog log') := by
  rw [Makes, resolve_inLog familiar node log log', made]
  rfl

/-- A tree answers alike for whatever log it is resolved. -/
theorem Makes.answer_eq (familiar : registry.Familiar) (made : registry.Makes log node e)
    {log' : LogId} {e' : Expander} (made' : registry.Makes log' node e') (v : Value) :
    e'.answer v = e.answer v := by
  have same : e'.inLog 0 = e.inLog 0 := (made.moved familiar 0).unique (made'.moved familiar 0)
  simp only [Expander.answer, Journal.addLog_empty_fst, same]

/-- The arguments of a node are resolved one by one. -/
theorem resolveArguments_ok_iff {arguments : List (Argument Node)} {depth : Nat} {name : String}
    {position : Nat} {items : List (Argument Expander)} :
    (registry.resolveArguments log depth name position arguments).1 = .ok items ↔
      List.Forall₂ (Argument.Related (registry.Makes log)) arguments items := by
  induction arguments generalizing position items with
  | nil => simp [resolveArguments, eq_comm]
  | cons argument rest ih =>
    rw [List.forall₂_cons_left_iff]
    cases argument with
    | literal v =>
      rw [resolveArguments_literal_fst]
      constructor
      · intro resolved
        obtain ⟨others, found, rfl⟩ := ok_of_map resolved
        exact ⟨_, others, .literal v, ih.mp found, rfl⟩
      · rintro ⟨_, others, ⟨⟩, later, rfl⟩
        rw [ih.mpr later]
        rfl
    | nested child =>
      rw [resolveArguments_nested_fst, resolveAt_depth registry log child 0 (depth + 1)]
      constructor
      · intro resolved
        obtain ⟨e, here, resolved⟩ := ok_bind_iff.mp resolved
        obtain ⟨others, found, rfl⟩ := ok_of_map resolved
        exact ⟨_, others, .nested here, ih.mp found, rfl⟩
      · rintro ⟨_, others, here, later, rfl⟩
        cases here with
        | nested made =>
          rw [ih.mpr later]
          exact ok_bind_iff.mpr ⟨_, made, rfl⟩

theorem resolves_of_made {arguments : List (Argument Node)} {items : List (Argument Expander)}
    (related : List.Forall₂ (Argument.Related (registry.Makes log)) arguments items) {child : Node}
    (member : .nested child ∈ arguments) : registry.Resolves log child := by
  obtain ⟨position, found⟩ := List.getElem?_of_mem member
  have made := Arguments.related_getElem? related position
  rw [found] at made
  generalize items[position]? = item at made
  cases made with
  | some made =>
    cases made with
    | nested made => exact ⟨_, made⟩

theorem exists_items_of_resolves {arguments : List (Argument Node)}
    (resolve : ∀ child, .nested child ∈ arguments → registry.Resolves log child) :
    ∃ items, List.Forall₂ (Argument.Related (registry.Makes log)) arguments items := by
  induction arguments with
  | nil => exact ⟨[], .nil⟩
  | cons argument rest ih =>
    obtain ⟨items, related⟩ := ih fun child member => resolve child (List.mem_cons_of_mem _ member)
    cases argument with
    | literal v => exact ⟨_, .cons (.literal v) related⟩
    | nested child =>
      obtain ⟨e, made⟩ := resolve child List.mem_cons_self
      exact ⟨_, .cons (.nested made) related⟩

theorem StandsFor.makes_iff {name : String} {kind : Kind} (stands : registry.StandsFor name kind)
    {arguments : List (Argument Node)} :
    registry.Makes log ⟨name, arguments⟩ e ↔ ∃ items,
      List.Forall₂ (Argument.Related (registry.Makes log)) arguments items ∧
        kind.build ⟨name, items⟩ log = .ok e := by
  rw [Makes, resolve, stands.resolveAt, ok_bind_iff]
  simp only [resolveArguments_ok_iff]

/-- What is built from one literal. -/
theorem StandsFor.makes_single_iff {name : String} {kind : Kind}
    (stands : registry.StandsFor name kind) {α : Type} {read : Value → Option α} {make : α → Expander}
    (build : ∀ items e, kind.build ⟨name, items⟩ log = .ok e ↔
      ∃ v a, items = [.literal v] ∧ read v = some a ∧ e = make a)
    {arguments : List (Argument Node)} :
    registry.Makes log ⟨name, arguments⟩ e ↔
      ∃ v a, arguments = [.literal v] ∧ read v = some a ∧ e = make a := by
  rw [stands.makes_iff]
  simp only [build]
  constructor
  · rintro ⟨_, related, v, a, rfl, given, rfl⟩
    cases related with
    | cons first rest =>
      cases first with
      | literal =>
        cases rest
        exact ⟨v, a, rfl, given, rfl⟩
  · rintro ⟨v, a, rfl, given, rfl⟩
    exact ⟨[.literal v], .cons (.literal v) .nil, v, a, rfl, given, rfl⟩

/-- What is built from no arguments. -/
theorem StandsFor.makes_plain_iff {name : String} {kind : Kind}
    (stands : registry.StandsFor name kind) {test : Test}
    (build : ∀ items, kind.build ⟨name, items⟩ log =
      (Kind.plainTest test ⟨name, items⟩).map (.test log))
    {arguments : List (Argument Node)} :
    registry.Makes log ⟨name, arguments⟩ e ↔ arguments = [] ∧ e = .test log test := by
  rw [stands.makes_iff]
  constructor
  · rintro ⟨items, related, built⟩
    rw [build] at built
    obtain ⟨t, plain, rfl⟩ := ok_of_map built
    obtain ⟨rfl, rfl⟩ := Kind.plainTest_ok_iff.mp plain
    exact ⟨List.forall₂_nil_right_iff.mp related, rfl⟩
  · rintro ⟨rfl, rfl⟩
    refine ⟨[], .nil, ?_⟩
    rw [build, Kind.plainTest_ok_iff.mpr ⟨rfl, rfl⟩]
    rfl

end Registry
end MatchTree
