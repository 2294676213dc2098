import MatchTree.Proofs.Expander.Answer
import MatchTree.Proofs.Registry.Change

/-!
Trees without some of their `match` nodes.

A `match` around another expander repeats its answers. An expander that answers alike can stand
anywhere in its place, so leaving out such nodes anywhere in a tree changes no answer of the tree.
-/

set_option autoImplicit false
namespace MatchTree

mutual

/-- The second tree is the first without some of the `match` nodes around other nodes. -/
inductive Node.Unwrapped : Node → Node → Prop
  | unwrap {child child' : Node} (inner : Unwrapped child child') :
    Unwrapped ⟨"match", [.nested child]⟩ child'
  | keep (name : String) {arguments arguments' : List (Argument Node)}
    (inner : Node.UnwrappedArguments arguments arguments') :
    Unwrapped ⟨name, arguments⟩ ⟨name, arguments'⟩

inductive Node.UnwrappedArguments : List (Argument Node) → List (Argument Node) → Prop
  | nil : UnwrappedArguments [] []
  | literal (v : Value) {rest rest' : List (Argument Node)}
    (later : UnwrappedArguments rest rest') :
    UnwrappedArguments (.literal v :: rest) (.literal v :: rest')
  | nested {child child' : Node} {rest rest' : List (Argument Node)}
    (first : Node.Unwrapped child child') (later : UnwrappedArguments rest rest') :
    UnwrappedArguments (.nested child :: rest) (.nested child' :: rest')

end

/-- Runs on the same values are answered alike. -/
theorem Expander.AnswersAs.runAll {e e' : Expander} {log log' : LogId} (alike : e.AnswersAs e')
    (same : e.inLog log = e) (same' : e'.inLog log' = e') (values : List Value)
    (journal journal' : Journal) :
    (e'.runAll .fresh values journal').1 = (e.runAll .fresh values journal).1 := by
  have runs := @runAll_eq e log _ e.settled_fresh values journal
  have runs' := @runAll_eq e' log' _ e'.settled_fresh values journal'
  rw [same] at runs
  rw [same'] at runs'
  simp only [runs, runs', alike.accepted, alike.error]

namespace Registry

section
variable {registry : Registry} {kinds : List Kind}

/-- A `match` of another node is built around what that node is resolved to. -/
theorem StandsFor.resolveAt_wrapped (stands : registry.StandsFor "match" .structural) (log : LogId)
    (depth : Nat) (child : Node) :
    (registry.resolveAt log depth ⟨"match", [.nested child]⟩).1 =
      (registry.resolveAt log (depth + 1) child).1.map fun e => .structural log (.nested e) := by
  rw [stands.resolveAt, resolveArguments_nested_fst]
  cases (registry.resolveAt log (depth + 1) child).1 <;> rfl

mutual

/-- A `match` that is left out is answered for by what it was around; around all else, what is
built keeps to the answers. -/
theorem resolveAt_unwrapped (binds : registry.Binds kinds)
    (heard : ∀ kind ∈ kinds, kind ≠ .silent ∧ kind ≠ .impostor)
    (stands : registry.StandsFor "match" .structural) (log log' : LogId) :
    ∀ {node node' : Node}, node.Unwrapped node' → ∀ depth depth' : Nat,
      Corresponds (Failure.renamed id) Expander.AnswersAs
        (registry.resolveAt log depth node).1 (registry.resolveAt log' depth' node').1
  | _, _, .unwrap inner, depth, depth' => by
    rw [stands.resolveAt_wrapped]
    -- only an expander that reports may lose the `match` around it: the `match` would report
    refine (resolveAt_unwrapped binds heard stands log log' inner (depth + 1) depth').map_left
      fun e e' resolved alike => ?_
    exact alike.structural (reporting_of_resolveAt binds heard resolved) log
  | _, _, .keep name inner, depth, depth' =>
    resolveAt_related binds.familiar (Expander.answersAs_congruence log log') rfl
      (resolveArguments_unwrapped binds heard stands log log' inner depth depth' name 0)

theorem resolveArguments_unwrapped (binds : registry.Binds kinds)
    (heard : ∀ kind ∈ kinds, kind ≠ .silent ∧ kind ≠ .impostor)
    (stands : registry.StandsFor "match" .structural) (log log' : LogId) :
    ∀ {arguments arguments' : List (Argument Node)}, Node.UnwrappedArguments arguments arguments' →
      ∀ (depth depth' : Nat) (name : String) (position : Nat),
        Corresponds (Failure.renamed id) (List.Forall₂ (Argument.Related Expander.AnswersAs))
          (registry.resolveArguments log depth name position arguments).1
          (registry.resolveArguments log' depth' name position arguments').1
  | _, _, .nil, _, _, _, _ => .built .nil
  | _, _, .literal v later, depth, depth', name, position =>
    resolveArguments_literal_related v
      (resolveArguments_unwrapped binds heard stands log log' later depth depth' name (position + 1))
  | _, _, .nested first later, depth, depth', name, position =>
    resolveArguments_nested_related
      (resolveAt_unwrapped binds heard stands log log' first (depth + 1) (depth' + 1))
      (resolveArguments_unwrapped binds heard stands log log' later depth depth' name (position + 1))

end
end

/-- Leaving out `match` nodes around other nodes is noticed neither in resolving a tree nor in
running it: the same failure, or the same answers with the same errors one after the other. -/
theorem resolve_unwrapped {node node' : Node} (unwrapped : node.Unwrapped node')
    (log log' : LogId) :
    match (standard.resolve node log).1, (standard.resolve node' log').1 with
    | .ok e, .ok e' => ∀ values journal journal',
      (e'.runAll .fresh values journal').1 = (e.runAll .fresh values journal).1
    | .error failure, .error failure' => failure' = failure
    | _, _ => False := by
  have binds := (Within.standard (List.Subset.refl Kind.builtin)).binds
  have stands := @standsFor_standard .structural (by decide)
  have corresponds : Corresponds (Failure.renamed id) Expander.AnswersAs
      (standard.resolve node log).1 (standard.resolve node' log').1 :=
    resolveAt_unwrapped binds (by decide) stands log log' unwrapped 0 0
  generalize resolved : (standard.resolve node log).1 = first at corresponds
  generalize resolved' : (standard.resolve node' log').1 = second at corresponds
  cases corresponds with
  | failed failure => exact failure.renamed_id
  | built alike =>
    have inLog := inLog_of_resolve binds.familiar resolved
    exact alike.runAll inLog (inLog_of_resolve binds.familiar resolved')

/-- Of four `match` nodes the root, a child and the pattern of a `repeat` are left out; the
messages of the refusal are joined and prefixed as before. -/
theorem resolve_unwrapped_of_three :
    let empty : Node := ⟨"isEmpty", []⟩
    let wrapped : Node := ⟨"match", [.nested empty]⟩
    let node : Node := ⟨"match", [.nested ⟨"oneOf", [.nested wrapped,
      .nested ⟨"match", [.nested ⟨"repeat", [.nested wrapped]⟩]⟩]⟩]⟩
    let node' : Node := ⟨"oneOf", [.nested wrapped, .nested ⟨"repeat", [.nested empty]⟩]⟩
    let values : List Value := [.array [.null, .bool true], .null]
    node.Unwrapped node' ∧ ∃ e e', (standard.resolve node 0).1 = .ok e ∧
      (standard.resolve node' 1).1 = .ok e' ∧
      ∀ journal, (e.runAll .fresh values journal).1 =
        [(false, some ("none of the expanders matched: value [null, true] is not empty; " ++
          "repeat element 1: value true is not empty")), (true, none)] := by
  intro empty wrapped node node' values
  have kept : empty.Unwrapped empty := .keep _ .nil
  have unwrapped : node.Unwrapped node' :=
    .unwrap (.keep _ (.nested (.keep _ (.nested kept .nil))
      (.nested (.unwrap (.keep _ (.nested (.unwrap kept) .nil))) .nil)))
  let inner (log : LogId) : Expander := .structural log (.nested (.test log .isEmpty))
  let e : Expander := .structural 0 (.nested (.oneOf 0
    [inner 0, .structural 0 (.nested (.each 0 (.nested (inner 0)) true))]))
  let e' : Expander := .oneOf 1 [inner 1, .each 1 (.nested (.test 1 .isEmpty)) true]
  have resolved : (standard.resolve node 0).1 = .ok e := by rfl
  have resolved' : (standard.resolve node' 1).1 = .ok e' := by rfl
  refine ⟨unwrapped, e, e', resolved, resolved', fun journal => ?_⟩
  have answers := resolve_unwrapped unwrapped 0 1
  rw [resolved, resolved'] at answers
  rw [← answers values journal .empty]
  decide +kernel

end Registry
end MatchTree
