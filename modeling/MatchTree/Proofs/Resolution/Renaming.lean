import MatchTree.Proofs.Expander.Kind
import MatchTree.Proofs.Table
import MatchTree.Registry.Observer

/-!
Resolving a tree under other names, and for another log.

Where a name leads to the same implementation as another name does elsewhere, it makes no
difference which of the two is written. A failure tells the name that was written; expanders
do not, since they report under the name of their kind. What is built for another log is the
same but for the log.
-/

set_option autoImplicit false
namespace MatchTree

namespace Node

mutual

/-- The same tree under other names; literals stay what they are. -/
def renamed (r : String → String) : Node → Node
  | ⟨name, arguments⟩ => ⟨r name, renamedArguments r arguments⟩

def renamedArguments (r : String → String) : List (Argument Node) → List (Argument Node)
  | [] => []
  | .literal v :: rest => .literal v :: renamedArguments r rest
  | .nested child :: rest => .nested (child.renamed r) :: renamedArguments r rest

end

mutual

theorem renamed_id : ∀ node : Node, node.renamed id = node
  | ⟨name, arguments⟩ => congrArg (Node.mk name) (renamedArguments_id arguments)

theorem renamedArguments_id :
    ∀ arguments : List (Argument Node), renamedArguments id arguments = arguments
  | [] => rfl
  | .literal v :: rest => by rw [renamedArguments, renamedArguments_id rest]
  | .nested child :: rest => by
    rw [renamedArguments, renamed_id child, renamedArguments_id rest]

end
end Node

namespace Expander

/-- Runs an expander on one value after the other; gives what it answered each time, with the
error that it then remembered. -/
def runAll (e : Expander) : Memory → List Value → Journal → List (Bool × Option String) × Journal
  | _, [], journal => ([], journal)
  | memory, v :: rest, journal =>
    let pass := e.run memory v journal
    let (answers, journal) := e.runAll pass.memory rest pass.journal
    ((pass.accepted, pass.error) :: answers, journal)

/-- Every run answers and records what its visit says, however many went before. -/
theorem runAll_eq {e : Expander} {log : LogId} {memory : Memory} (settled : e.Settled memory)
    (values : List Value) (journal : Journal) :
    (e.inLog log).runAll memory values journal =
      (values.map fun v => ((e.visit v).accepted, (e.visit v).error),
        journal.recordAll log (values.flatMap fun v => (e.visit v).entries)) := by
  induction values generalizing memory journal with
  | nil => rfl
  | cons v rest ih =>
    obtain ⟨shows, still⟩ := run_shows e memory v journal settled
    rw [runAll, ih still, shows.accepted, shows.error, shows.journal, List.map_cons,
      List.flatMap_cons, Journal.recordAll_append]

/-- Two expanders, each with a log of its own, that cannot be told apart by running them. -/
structure Alike (log log' : LogId) (e e' : Expander) : Prop where
  name : e'.name = e.name
  answers : ∀ values journal journal',
    (e'.runAll .fresh values journal').1 = (e.runAll .fresh values journal).1
  entries : ∀ (values : List Value) (journal journal' : Journal),
    log < journal.logs.size → log' < journal'.logs.size → ∃ entries,
      (e.runAll .fresh values journal).2.contents log = journal.contents log ++ entries ∧
        (e'.runAll .fresh values journal').2.contents log' = journal'.contents log' ++ entries

/-- For two logs, an expander is told apart by the logs alone. -/
theorem alike_inLog (e : Expander) (log log' : LogId) :
    Alike log log' (e.inLog log) (e.inLog log') := by
  refine ⟨?_, fun values journal journal' => ?_, fun values journal journal' known known' => ?_⟩
  · rw [name_inLog, name_inLog]
  · rw [runAll_eq e.settled_fresh, runAll_eq e.settled_fresh]
  · refine ⟨values.flatMap fun v => (e.visit v).entries, ?_, ?_⟩
    · rw [runAll_eq e.settled_fresh, Journal.contents_recordAll_self known]
    · rw [runAll_eq e.settled_fresh, Journal.contents_recordAll_self known']

/-- To record in another log is kept to by all that is built. -/
theorem inLog_congruence (log log' : LogId) :
    Congruence log log' fun e e' => e' = e.inLog log' := by
  have pattern {pattern pattern' : Argument Expander}
      (related : Argument.Related (fun e e' => e' = e.inLog log') pattern pattern') :
      pattern' = inLogArgument log' pattern := by
    cases related with
    | literal v => rfl
    | nested same => exact congrArg Argument.nested same
  refine ⟨fun _ => rfl, fun {children children'} nested => ?_, fun strict nested => ?_,
    fun nested => ?_, fun _ _ => rfl, rfl, rfl⟩
  · suffices same : children' = inLogAll log' children from congrArg (Expander.oneOf log') same
    induction nested with
    | nil => rfl
    | cons here _ ih => rw [here, ih, inLogAll]
  · rw [inLog, pattern nested]
  · rw [inLog, pattern nested]

end Expander

/-- Builds what a kind builds, or what is no expander, or nothing; under whatever type name. -/
def Implementation.IsFamiliar (implementation : Implementation) : Prop :=
  (∃ kind, implementation.build = (ofKind kind).build) ∨
    (∃ typeName, implementation.build = (foreign typeName).build) ∨
      implementation.build = refusing.build

namespace Registry

/-- Every bound name stands for a familiar implementation. -/
def Familiar (registry : Registry) : Prop :=
  ∀ name implementation, registry.lookup name = some implementation → implementation.IsFamiliar

theorem construct_of_builds {implementation : Implementation} {kind : Kind}
    (builds : implementation.build = (Implementation.ofKind kind).build) (arguments : Arguments)
    (log : LogId) : construct implementation arguments log = kind.build arguments log := by
  rw [construct, builds]
  change ((kind.build arguments log).map Product.expander >>= _) = _
  cases kind.build arguments log <;> rfl

section
variable (registry : Registry) (log : LogId) (depth : Nat)

/-- The expander of a node, without the steps. -/
theorem resolveAt_fst (name : String) (arguments : List (Argument Node)) :
    (registry.resolveAt log depth ⟨name, arguments⟩).1 =
      match registry.lookup name with
      | none => .error (.unknownExpander name)
      | some implementation =>
        (registry.resolveArguments log depth name 0 arguments).1 >>=
          fun items => construct implementation ⟨name, items⟩ log := by
  rw [resolveAt]
  cases registry.lookup name with
  | none => rfl
  | some implementation =>
    simp only
    split <;> rename_i found <;> rw [found] <;> rfl

variable (name : String) (position : Nat) (rest : List (Argument Node))

theorem resolveArguments_literal_fst (v : Value) :
    (registry.resolveArguments log depth name position (.literal v :: rest)).1 =
      (registry.resolveArguments log depth name (position + 1) rest).1.map (.literal v :: ·) := rfl

theorem resolveArguments_nested_fst (child : Node) :
    (registry.resolveArguments log depth name position (.nested child :: rest)).1 =
      (registry.resolveAt log (depth + 1) child).1 >>= fun e =>
        (registry.resolveArguments log depth name (position + 1) rest).1.map (.nested e :: ·) := by
  rw [resolveArguments]
  simp only
  split <;> rename_i found <;> rw [found] <;> rfl

end

mutual

/-- How deep a tree stands shows in the steps alone. -/
theorem resolveAt_depth (registry : Registry) (log : LogId) :
    ∀ (node : Node) (depth depth' : Nat),
      (registry.resolveAt log depth' node).1 = (registry.resolveAt log depth node).1
  | ⟨name, arguments⟩, depth, depth' => by
    rw [resolveAt_fst, resolveAt_fst, resolveArguments_depth registry log arguments depth depth']

theorem resolveArguments_depth (registry : Registry) (log : LogId) :
    ∀ (arguments : List (Argument Node)) (depth depth' : Nat) (name : String) (position : Nat),
      (registry.resolveArguments log depth' name position arguments).1 =
        (registry.resolveArguments log depth name position arguments).1
  | [], _, _, _, _ => rfl
  | .literal v :: rest, depth, depth', name, position => by
    rw [resolveArguments_literal_fst, resolveArguments_literal_fst,
      resolveArguments_depth registry log rest depth depth']
  | .nested child :: rest, depth, depth', name, position => by
    rw [resolveArguments_nested_fst, resolveArguments_nested_fst,
      resolveAt_depth registry log child (depth + 1) (depth' + 1),
      resolveArguments_depth registry log rest depth depth']

end

/-! ## Trees that correspond -/

section
variable {registry other : Registry} {log log' : LogId} {r : String → String}
  {R : Expander → Expander → Prop}

theorem construct_related {implementation : Implementation}
    (familiar : implementation.IsFamiliar) (congruence : Expander.Congruence log log' R)
    (name : String) {items items' : List (Argument Expander)}
    (related : List.Forall₂ (Argument.Related R) items items') :
    Corresponds (Failure.renamed r) R (construct implementation ⟨name, items⟩ log)
      (construct implementation ⟨r name, items'⟩ log') := by
  rcases familiar with ⟨kind, builds⟩ | ⟨typeName, builds⟩ | builds
  · rw [construct_of_builds builds, construct_of_builds builds]
    exact Kind.build_related related r name congruence kind
  · rw [construct, construct, builds]
    exact .failed _
  · rw [construct, construct, builds]
    simp only [Implementation.refusing, ← related.length_eq]
    exact .failed _

/-- Of two nodes that stand for the same implementation, what is resolved corresponds if their
arguments do. Depths and positions go into the steps alone, so they need not agree. -/
theorem resolveAt_related (familiar : registry.Familiar)
    (congruence : Expander.Congruence log log' R) {name : String}
    {arguments arguments' : List (Argument Node)} {depth depth' : Nat}
    (same : other.lookup (r name) = registry.lookup name)
    (items : Corresponds (Failure.renamed r) (List.Forall₂ (Argument.Related R))
      (registry.resolveArguments log depth name 0 arguments).1
      (other.resolveArguments log' depth' (r name) 0 arguments').1) :
    Corresponds (Failure.renamed r) R (registry.resolveAt log depth ⟨name, arguments⟩).1
      (other.resolveAt log' depth' ⟨r name, arguments'⟩).1 := by
  rw [resolveAt_fst, resolveAt_fst, same]
  cases bound : registry.lookup name with
  | none => exact .failed _
  | some implementation =>
    -- only here does it matter what the name stands for
    exact items.bind fun _ _ related =>
      construct_related (familiar name implementation bound) congruence name related

variable {name name' : String} {depth depth' position position' : Nat}
  {rest rest' : List (Argument Node)}

theorem resolveArguments_literal_related (v : Value)
    (later : Corresponds (Failure.renamed r) (List.Forall₂ (Argument.Related R))
      (registry.resolveArguments log depth name (position + 1) rest).1
      (other.resolveArguments log' depth' name' (position' + 1) rest').1) :
    Corresponds (Failure.renamed r) (List.Forall₂ (Argument.Related R))
      (registry.resolveArguments log depth name position (.literal v :: rest)).1
      (other.resolveArguments log' depth' name' position' (.literal v :: rest')).1 := by
  rw [resolveArguments_literal_fst, resolveArguments_literal_fst]
  exact later.map fun _ _ related => .cons (.literal v) related

theorem resolveArguments_nested_related {child child' : Node}
    (first : Corresponds (Failure.renamed r) R (registry.resolveAt log (depth + 1) child).1
      (other.resolveAt log' (depth' + 1) child').1)
    (later : Corresponds (Failure.renamed r) (List.Forall₂ (Argument.Related R))
      (registry.resolveArguments log depth name (position + 1) rest).1
      (other.resolveArguments log' depth' name' (position' + 1) rest').1) :
    Corresponds (Failure.renamed r) (List.Forall₂ (Argument.Related R))
      (registry.resolveArguments log depth name position (.nested child :: rest)).1
      (other.resolveArguments log' depth' name' position' (.nested child' :: rest')).1 := by
  rw [resolveArguments_nested_fst, resolveArguments_nested_fst]
  exact first.bind fun _ _ here => later.map fun _ _ related => .cons (.nested here) related

end

/-! ## Other names and another log -/

section
variable {registry other : Registry} {r : String → String}

mutual

theorem resolveAt_renamed (familiar : registry.Familiar) (log log' : LogId) :
    ∀ (node : Node) (depth depth' : Nat),
      (∀ name ∈ node.names, other.lookup (r name) = registry.lookup name) →
        Corresponds (Failure.renamed r) (fun e e' => e' = e.inLog log')
          (registry.resolveAt log depth node).1 (other.resolveAt log' depth' (node.renamed r)).1
  | ⟨name, arguments⟩, depth, depth', same => by
    obtain ⟨here, inside⟩ := List.forall_mem_cons.mp same
    exact resolveAt_related familiar (Expander.inLog_congruence log log') here
      (resolveArguments_renamed familiar log log' arguments depth depth' name (r name) 0 inside)

theorem resolveArguments_renamed (familiar : registry.Familiar) (log log' : LogId) :
    ∀ (arguments : List (Argument Node)) (depth depth' : Nat) (name name' : String)
      (position : Nat),
      (∀ name ∈ Node.namesOfArguments arguments, other.lookup (r name) = registry.lookup name) →
        Corresponds (Failure.renamed r)
          (List.Forall₂ (Argument.Related fun e e' => e' = e.inLog log'))
          (registry.resolveArguments log depth name position arguments).1
          (other.resolveArguments log' depth' name' position (Node.renamedArguments r arguments)).1
  | [], _, _, _, _, _, _ => .built .nil
  | .literal v :: rest, depth, depth', name, name', position, same =>
    resolveArguments_literal_related v
      (resolveArguments_renamed familiar log log' rest depth depth' name name' (position + 1) same)
  | .nested child :: rest, depth, depth', name, name', position, same => by
    obtain ⟨inside, later⟩ := List.forall_mem_append.mp same
    exact resolveArguments_nested_related
      (resolveAt_renamed familiar log log' child (depth + 1) (depth' + 1) inside)
      (resolveArguments_renamed familiar log log' rest depth depth' name name' (position + 1) later)

end

theorem resolveAt_moved (familiar : registry.Familiar) (log log' : LogId) (node : Node)
    (depth depth' : Nat) (same : ∀ name ∈ node.names, other.lookup (r name) = registry.lookup name) :
    (other.resolveAt log' depth' (node.renamed r)).1 =
      ((registry.resolveAt log depth node).1.map (Expander.inLog log')).mapError
        (Failure.renamed r) :=
  (resolveAt_renamed familiar log log' node depth depth' same).eq_mapError

/-- The log makes no difference to what is built, but for the log. -/
theorem resolve_inLog (familiar : registry.Familiar) (node : Node) (log log' : LogId) :
    (registry.resolve node log').1 = (registry.resolve node log).1.map (Expander.inLog log') := by
  have moved := resolveAt_moved familiar log log' node 0 0 fun name _ =>
    congrArg registry.lookup (id_eq name)
  rw [Node.renamed_id] at moved
  refine moved.trans ?_
  rw [resolve]
  cases (registry.resolveAt log 0 node).1 with
  | error failure => exact congrArg Except.error failure.renamed_id
  | ok e => rfl

/-- All that is resolved records in the one log. -/
theorem inLog_of_resolve (familiar : registry.Familiar) {node : Node} {log : LogId} {e : Expander}
    (resolved : (registry.resolve node log).1 = .ok e) : e.inLog log = e := by
  have again := resolve_inLog familiar node log log
  rw [resolved] at again
  exact (Except.ok.inj again).symm

/-- It does not matter under which names the implementations of a tree are found. Nothing is
asked of names that the tree does not use. -/
theorem resolve_renamed (familiar : registry.Familiar) (node : Node)
    (same : ∀ name ∈ node.names, other.lookup (r name) = registry.lookup name)
    (log log' : LogId) :
    match (registry.resolve node log).1, (other.resolve (node.renamed r) log').1 with
    | .ok e, .ok e' => e.Alike log log' e'
    | .error failure, .error failure' => failure' = failure.renamed r
    | _, _ => False := by
  have found : (other.resolve (node.renamed r) log').1 =
      ((registry.resolve node log).1.map (Expander.inLog log')).mapError (Failure.renamed r) :=
    resolveAt_moved familiar log log' node 0 0 same
  rw [found]
  cases resolved : (registry.resolve node log).1 with
  | error failure => rfl
  | ok e =>
    have alike := e.alike_inLog log log'
    rwa [inLog_of_resolve familiar resolved] at alike

end

/-- The second registry has other names for the same, and something else under the same name. -/
theorem resolve_renamed_of_aliases :
    let registry : Registry := ⟨[("isEmpty", .ofKind .isEmpty), ("oneOf", .ofKind .oneOf)], []⟩
    let other : Registry :=
      ⟨[("any", .ofKind .oneOf), ("empty", .ofKind .isEmpty), ("oneOf", .refusing)], []⟩
    let r : String → String := fun name => if name = "oneOf" then "any" else "empty"
    let node : Node := ⟨"oneOf", [.nested ⟨"isEmpty", []⟩, .nested ⟨"isEmpty", []⟩]⟩
    registry.Familiar ∧
      (∀ name ∈ node.names, other.lookup (r name) = registry.lookup name) ∧
      ∃ e e', (registry.resolve node 0).1 = .ok e ∧
        (other.resolve (node.renamed r) 1).1 = .ok e' ∧ e.Alike 0 1 e' := by
  intro registry other r node
  have familiar : registry.Familiar := by
    intro name implementation bound
    have member := Table.mem_of_get? bound
    simp only [registry, List.mem_cons, List.not_mem_nil, Prod.mk.injEq, or_false] at member
    rcases member with ⟨_, rfl⟩ | ⟨_, rfl⟩
    · exact .inl ⟨.isEmpty, rfl⟩
    · exact .inl ⟨.oneOf, rfl⟩
  have same : ∀ name ∈ node.names, other.lookup (r name) = registry.lookup name := by
    intro name member
    simp only [node, Node.names, Node.namesOfArguments, List.mem_cons, List.append_nil,
      List.cons_append, List.nil_append, List.not_mem_nil, or_false] at member
    rcases member with rfl | rfl | rfl <;> rfl
  refine ⟨familiar, same, _, _, rfl, rfl, ?_⟩
  exact resolve_renamed familiar node same 0 1

end Registry
end MatchTree
