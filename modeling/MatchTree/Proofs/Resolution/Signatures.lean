import MatchTree.Proofs.Expander.Signature
import MatchTree.Proofs.Resolution.Announcement

/-!
Resolving against the usual registry.

Whether a tree resolves can be told without resolving it: every node is to have a usual name, and
arguments that fit the signature of that name. So a nested tree that resolves can be put for
another.
-/

set_option autoImplicit false
namespace MatchTree

namespace Node

/-- A usual name, and arguments that its signature takes. -/
def Fits (node : Node) : Prop :=
  ∃ kind ∈ Kind.builtin, node.name = kind.title ∧ kind.signature.Fits node.arguments

/-- Puts a tree in a place where there is one. -/
def put (node : Node) : Place → Node → Node
  | [], tree => tree
  | position :: place, tree =>
    match node.arguments[position]? with
    | some (.nested child) =>
      { node with arguments := node.arguments.set position (.nested (child.put place tree)) }
    | _ => node

theorem put_cons {node child : Node} {position : Nat}
    (found : node.arguments[position]? = some (.nested child)) (place : Place) (tree : Node) :
    node.put (position :: place) tree =
      ⟨node.name, node.arguments.set position (.nested (child.put place tree))⟩ := by
  rw [put, found]

/-- What is nested does not matter to a signature. -/
theorem fits_set {node child : Node} {position : Nat}
    (found : node.arguments[position]? = some (.nested child)) (other : Node) :
    Fits ⟨node.name, node.arguments.set position (.nested other)⟩ ↔ node.Fits := by
  have same (signature : Signature) :
      signature.Fits (node.arguments.set position (.nested other)) ↔
        signature.Fits node.arguments := by
    rw [Signature.Fits, Signature.Fits, List.length_set]
    refine and_congr_right fun _ => forall_congr' fun i => ?_
    obtain ⟨within, _⟩ := List.getElem?_eq_some_iff.mp found
    rw [List.getElem?_set]
    split
    case isTrue here =>
      subst here
      rw [found]
      simp [Slot.admits]
    case isFalse => rfl
  simp only [Fits, same]

end Node

namespace Registry
variable {log : LogId} {node : Node}

/-- A node resolves if it fits and all that is nested in it resolves. -/
theorem resolves_iff : standard.Resolves log node ↔ node.Fits ∧
    ∀ child, .nested child ∈ node.arguments → standard.Resolves log child := by
  obtain ⟨name, arguments⟩ := node
  constructor
  · rintro ⟨e, made⟩
    cases usual : usual? name with
    | none =>
      rw [Makes, resolve, resolveAt_of_unknown ((lookup_standard name).trans usual)] at made
      contradiction
    | some implementation =>
      obtain ⟨kind, member, rfl, _⟩ := usual?_eq_some_iff.mp usual
      obtain ⟨items, related, built⟩ := (standsFor_standard member).makes_iff.mp made
      have fits := @kind.build_decides kind.title items log
      rw [built] at fits
      exact ⟨⟨kind, member, rfl, (Signature.fits_related related).mp fits⟩,
        fun child => resolves_of_made related⟩
  · rintro ⟨⟨kind, member, same, fits⟩, inside⟩
    obtain rfl : name = kind.title := same
    obtain ⟨items, related⟩ := exists_items_of_resolves inside
    cases built : kind.build ⟨kind.title, items⟩ log with
    | ok e => exact ⟨e, (standsFor_standard member).makes_iff.mpr ⟨items, related, built⟩⟩
    | error failure =>
      have rejects := @kind.build_decides kind.title items log
      rw [built] at rejects
      exact absurd ((Signature.fits_related related).mpr fits) rejects.not_fits

theorem resolves_iff_all_fit :
    standard.Resolves log node ↔ ∀ place n, node.at? place = some n → n.Fits := by
  induction node with
  | mk name arguments ih =>
    rw [resolves_iff]
    constructor
    · rintro ⟨fits, inside⟩ place n here
      cases place with
      | nil => exact Option.some.inj here ▸ fits
      | cons position place =>
        obtain ⟨child, found, here⟩ := Node.at?_cons_iff.mp here
        have member := List.mem_of_getElem? found
        exact (ih child member).mp (inside child member) place n here
    · intro all
      refine ⟨all [] _ rfl, fun child member => (ih child member).mpr fun place n here => ?_⟩
      obtain ⟨position, found⟩ := List.getElem?_of_mem member
      exact all (position :: place) n (Node.at?_cons_iff.mpr ⟨child, found, here⟩)

/-- To put one tree that resolves for another changes nothing. -/
theorem resolves_put_iff {place : Place} {child tree : Node} (here : node.at? place = some child)
    (resolves : standard.Resolves log child) (resolves' : standard.Resolves log tree) :
    standard.Resolves log (node.put place tree) ↔ standard.Resolves log node := by
  induction place generalizing node with
  | nil =>
    obtain rfl := Option.some.inj here
    exact iff_of_true resolves' resolves
  | cons position place ih =>
    obtain ⟨first, found, here⟩ := Node.at?_cons_iff.mp here
    obtain ⟨within, there⟩ := List.getElem?_eq_some_iff.mp found
    rw [Node.put_cons found, resolves_iff, resolves_iff, Node.fits_set found]
    refine and_congr_right fun _ => ?_
    -- the child that is put there resolves if the one that was there does, and the others stay
    constructor
    · intro all other member
      obtain ⟨i, at_i⟩ := List.getElem?_of_mem member
      by_cases same : position = i
      · subst same
        obtain rfl := Argument.nested.inj (Option.some.inj (at_i.symm.trans found))
        exact (ih here).mp (all _ (List.mem_set within _))
      · rw [← List.getElem?_set_ne same] at at_i
        exact all other (List.mem_of_getElem? at_i)
    · intro all other member
      obtain ⟨i, at_i⟩ := List.getElem?_of_mem member
      by_cases same : position = i
      · subst same
        rw [List.getElem?_set_self within] at at_i
        obtain rfl := Argument.nested.inj (Option.some.inj at_i)
        exact (ih here).mpr (all _ (List.mem_of_getElem? found))
      · rw [List.getElem?_set_ne same] at at_i
        exact all other (List.mem_of_getElem? at_i)

/-- A node at which a resolution stops, though what is nested in it resolves: its name is none of
the usual ones, or its arguments do not fit the signature of its name. -/
def Rejected (log : LogId) (node : Node) (failure : Failure) : Prop :=
  ((∀ kind ∈ Kind.builtin, node.name ≠ kind.title) ∧ failure = .unknownExpander node.name) ∨
    ∃ kind ∈ Kind.builtin, node.name = kind.title ∧
      (∀ child, .nested child ∈ node.arguments → standard.Resolves log child) ∧
      kind.signature.Rejects node.name node.arguments failure

theorem StopsAt.rejected {before : List Site} {site : Site} {failure : Failure}
    {events : List Event} (stops : standard.StopsAt log before site failure events) :
    Rejected log site.node failure := by
  obtain ⟨⟨unknown, rfl⟩, _⟩ | ⟨⟨implementation, items, bound, related, failed⟩, _⟩ := stops.cut
  · refine .inl ⟨fun kind member same => ?_, rfl⟩
    rw [lookup_standard, same, usual?_title member] at unknown
    contradiction
  · rw [lookup_standard] at bound
    obtain ⟨kind, member, same, rfl⟩ := usual?_eq_some_iff.mp bound
    rw [construct_of_builds rfl] at failed
    have rejects := @kind.build_decides site.node.name items log
    rw [failed] at rejects
    exact .inr ⟨kind, member, same, fun child => resolves_of_made related,
      rejects.of_related related⟩

/-- Resolving against the usual registry is decided by the signatures of the names: a tree resolves
if every node fits. Where it does not, one node is the first, in the order in which nodes are
reached and built, that has no usual name or does not fit; its failure says which, a wrong number of
arguments before what they are. And to put a tree that resolves for a nested one that does never
changes whether the whole tree resolves. -/
theorem resolves_by_signature (log : LogId) (node : Node) :
    (standard.Resolves log node ↔ ∀ place n, node.at? place = some n → n.Fits) ∧
    (∀ failure, (standard.resolve node log).1 = .error failure →
      ∃ place n, node.at? place = some n ∧ Rejected log n failure ∧
        ∀ earlier m, node.at? earlier = some m → earlier < place →
          (∃ kind ∈ Kind.builtin, m.name = kind.title) ∧
            (earlier <+: place ∨ standard.Resolves log m)) ∧
    ∀ place child tree, node.at? place = some child → standard.Resolves log child →
      standard.Resolves log tree →
        (standard.Resolves log (node.put place tree) ↔ standard.Resolves log node) := by
  refine ⟨resolves_iff_all_fit, fun failure failed => ?_, fun place child tree => resolves_put_iff⟩
  have announces := announces_resolve standard log node
  rw [failed] at announces
  obtain ⟨before, site, later, split, stops⟩ := announces
  have member : site ∈ node.sites := by
    rw [split, Site.subtree, sites_eq_cons]
    simp
  refine ⟨site.place, site.node, (node.exists_site_iff _ _).mp ⟨site, member, rfl, rfl⟩,
    stops.rejected, fun earlier m there less => ?_⟩
  obtain ⟨other, member', rfl, rfl⟩ := (node.exists_site_iff _ _).mpr there
  obtain ⟨bound, resolves⟩ := stops.earlier other (Node.mem_before split member' less)
  obtain ⟨implementation, bound⟩ := Option.isSome_iff_exists.mp bound
  rw [lookup_standard] at bound
  obtain ⟨kind, usual, same, _⟩ := usual?_eq_some_iff.mp bound
  exact ⟨⟨kind, usual, same⟩, resolves⟩

end Registry
end MatchTree
