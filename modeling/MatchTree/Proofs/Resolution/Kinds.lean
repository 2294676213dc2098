import MatchTree.Proofs.Node.RoundTrip
import MatchTree.Proofs.Registry.Tables
import MatchTree.Proofs.Resolution.Renaming

/-!
Resolving against a registry whose names stand for kinds: what comes out reports and records in
the one log, if the kinds do report.
-/

set_option autoImplicit false
namespace MatchTree

/-- Builds what one of some kinds builds, under whatever type name. -/
def Implementation.BuildsOneOf (kinds : List Kind) (implementation : Implementation) : Prop :=
  ∃ kind ∈ kinds, implementation.build = (ofKind kind).build

/-- A literal that is proper, or an expander with a property. -/
def Argument.Fit (proper : Value → Prop) (holds : Expander → Prop) : Argument Expander → Prop
  | .literal v => proper v
  | .nested child => holds child

namespace Registry

/-- Every bound name stands for one of some kinds. -/
def Binds (kinds : List Kind) (registry : Registry) : Prop :=
  ∀ name implementation, registry.lookup name = some implementation →
    implementation.BuildsOneOf kinds

/-- A name stands for a kind, under whatever type name. -/
def StandsFor (registry : Registry) (name : String) (kind : Kind) : Prop :=
  ∃ implementation, registry.lookup name = some implementation ∧
    implementation.build = (Implementation.ofKind kind).build

variable {registry : Registry} {kinds : List Kind}

theorem StandsFor.resolveAt {name : String} {kind : Kind} (stands : registry.StandsFor name kind)
    (log : LogId) (depth : Nat) (arguments : List (Argument Node)) :
    (registry.resolveAt log depth ⟨name, arguments⟩).1 =
      (registry.resolveArguments log depth name 0 arguments).1 >>= fun items =>
        kind.build ⟨name, items⟩ log := by
  obtain ⟨implementation, bound, builds⟩ := stands
  simp only [resolveAt_fst, bound, construct_of_builds builds]

/-- In the usual registry each usual kind is found under its own name. -/
theorem standsFor_standard {kind : Kind} (member : kind ∈ Kind.builtin) :
    standard.StandsFor kind.title kind :=
  ⟨.ofKind kind, (lookup_standard kind.title).trans (usual?_title member), rfl⟩

theorem Binds.familiar (binds : registry.Binds kinds) : registry.Familiar := by
  intro name implementation bound
  obtain ⟨kind, _, builds⟩ := binds name implementation bound
  exact .inl ⟨kind, builds⟩

/-- What is constructed has a property if all that it is constructed from is fit for it: literals in
one way, and expanders in that they have it. -/
def InheritsFrom (registry : Registry) (log : LogId) (proper : Value → Prop)
    (holds : Expander → Prop) : Prop :=
  ∀ name implementation items e, registry.lookup name = some implementation →
    (∀ item ∈ items, Argument.Fit proper holds item) →
    construct implementation ⟨name, items⟩ log = .ok e → holds e

/-- What is constructed has a property if all that it is constructed from has it. -/
def Inherits (registry : Registry) (log : LogId) (holds : Expander → Prop) : Prop :=
  ∀ name implementation items e, registry.lookup name = some implementation →
    (∀ child, .nested child ∈ items → holds child) →
    construct implementation ⟨name, items⟩ log = .ok e → holds e

section
variable {log : LogId} {proper : Value → Prop} {holds : Expander → Prop}

mutual

/-- A property that is inherited is had by everything that is resolved from proper literals. -/
theorem holds_of_proper (inherits : registry.InheritsFrom log proper holds) :
    ∀ (node : Node) (depth : Nat) (e : Expander), (∀ v ∈ node.literals, proper v) →
      (registry.resolveAt log depth node).1 = .ok e → holds e
  | ⟨name, arguments⟩, depth, e, literals, resolved => by
    rw [resolveAt_fst] at resolved
    cases bound : registry.lookup name with
    | none =>
      rw [bound] at resolved
      contradiction
    | some implementation =>
      rw [bound] at resolved
      obtain ⟨items, found, constructed⟩ := ok_bind_iff.mp resolved
      exact inherits name implementation items e bound
        (fit_of_proper inherits arguments depth name 0 items literals found) constructed

theorem fit_of_proper (inherits : registry.InheritsFrom log proper holds) :
    ∀ (arguments : List (Argument Node)) (depth : Nat) (name : String) (position : Nat)
      (items : List (Argument Expander)), (∀ v ∈ Node.literalsOfArguments arguments, proper v) →
      (registry.resolveArguments log depth name position arguments).1 = .ok items →
        ∀ item ∈ items, Argument.Fit proper holds item
  | [], _, _, _, items, _, resolved => by
    obtain rfl : [] = items := Except.ok.inj resolved
    nofun
  | .literal first :: rest, depth, name, position, items, literals, resolved => by
    obtain ⟨here, later⟩ := List.forall_mem_cons.mp literals
    rw [resolveArguments_literal_fst] at resolved
    obtain ⟨others, found, rfl⟩ := ok_of_map resolved
    exact List.forall_mem_cons.mpr
      ⟨here, fit_of_proper inherits rest depth name (position + 1) others later found⟩
  | .nested first :: rest, depth, name, position, items, literals, resolved => by
    obtain ⟨here, later⟩ := List.forall_mem_append.mp literals
    rw [resolveArguments_nested_fst] at resolved
    obtain ⟨e, constructed, resolved⟩ := ok_bind_iff.mp resolved
    obtain ⟨others, found, rfl⟩ := ok_of_map resolved
    exact List.forall_mem_cons.mpr
      ⟨holds_of_proper inherits first (depth + 1) e here constructed,
        fit_of_proper inherits rest depth name (position + 1) others later found⟩

end

/-- A property that is inherited is had by everything that is resolved. -/
theorem holds_of_resolveAt (inherits : registry.Inherits log holds) (node : Node) (depth : Nat)
    (e : Expander) (resolved : (registry.resolveAt log depth node).1 = .ok e) : holds e := by
  have any : registry.InheritsFrom log (fun _ => True) holds :=
    fun name implementation items e bound fits =>
      inherits name implementation items e bound fun child member => fits (.nested child) member
  exact holds_of_proper any node depth e (fun _ _ => trivial) resolved

end

theorem reporting_of_resolveAt (binds : registry.Binds kinds)
    (heard : ∀ kind ∈ kinds, kind ≠ .silent ∧ kind ≠ .impostor) {node : Node} {log : LogId}
    {depth : Nat} {e : Expander} (resolved : (registry.resolveAt log depth node).1 = .ok e) :
    e.Reporting := by
  refine holds_of_resolveAt (fun name implementation items e bound inside constructed => ?_)
    node depth e resolved
  obtain ⟨kind, member, builds⟩ := binds name implementation bound
  rw [construct_of_builds builds] at constructed
  exact Kind.reporting_of_build (heard kind member) inside constructed

theorem reporting_of_resolve (binds : registry.Binds kinds)
    (heard : ∀ kind ∈ kinds, kind ≠ .silent ∧ kind ≠ .impostor) {node : Node} {log : LogId}
    {e : Expander} (resolved : (registry.resolve node log).1 = .ok e) : e.Reporting :=
  reporting_of_resolveAt binds heard resolved

/-- Runs of what is resolved against the usual kinds and `record` leave one block each. -/
theorem resolve_leaves_block (binds : registry.Binds (.record :: Kind.builtin)) {node : Node}
    {log : LogId} {e : Expander} (resolved : (registry.resolve node log).1 = .ok e) (v : Value) :
    ∃ runs entries stage, Block log e v runs entries ∧
      (∀ memory journal, Leaves log e v entries stage memory journal) ∧
      entries.length = 2 * runs ∧ ∀ waiting, Closes waiting entries waiting := by
  have heard : ∀ kind ∈ Kind.record :: Kind.builtin, kind ≠ .silent ∧ kind ≠ .impostor := by
    decide
  have records : e.Records log :=
    ⟨reporting_of_resolve binds heard resolved, inLog_of_resolve binds.familiar resolved⟩
  obtain ⟨stage, _, leaves⟩ := records.leaves v
  have block := block_of_visit (e.visit v) records rfl
  refine ⟨_, _, stage, block, leaves, block.length_entries, fun waiting => ?_⟩
  simpa using block.closes (.done waiting)

/-- A registry of two names, and an array whose second item is refused. -/
theorem resolve_leaves_block_of_repeat :
    let registry : Registry := ⟨[("isEmpty", .ofKind .isEmpty), ("repeat", .ofKind .each)], []⟩
    let node : Node := ⟨"repeat", [.nested ⟨"isEmpty", []⟩]⟩
    let e : Expander := .each 0 (.nested (.test 0 .isEmpty)) true
    registry.Binds (.record :: Kind.builtin) ∧ (registry.resolve node 0).1 = .ok e ∧
      ∃ runs entries stage, Block 0 e (.array [.null, .bool true, .null]) runs entries ∧
        (∀ memory journal,
          Leaves 0 e (.array [.null, .bool true, .null]) entries stage memory journal) ∧
        entries.length = 2 * runs ∧ ∀ waiting, Closes waiting entries waiting := by
  intro registry node e
  have binds : registry.Binds (.record :: Kind.builtin) := by
    intro name implementation bound
    simp only [registry, lookup, Table.get?_cons, Table.get?_nil] at bound
    split at bound
    · obtain rfl := Option.some.inj bound
      exact ⟨.isEmpty, by decide, rfl⟩
    · split at bound
      · obtain rfl := Option.some.inj bound
        exact ⟨.each, by decide, rfl⟩
      · contradiction
  have resolved : (registry.resolve node 0).1 = .ok e := by rfl
  exact ⟨binds, resolved, resolve_leaves_block binds resolved _⟩

end Registry
end MatchTree
