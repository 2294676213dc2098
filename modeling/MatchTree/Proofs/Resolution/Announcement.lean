import MatchTree.Proofs.Resolution.Made
import MatchTree.Proofs.Resolution.Sites

/-!
What a resolution announces.

Every node that is reached is announced, after its parent has announced that it descends to it. A
node whose name is unknown is not reached; one that cannot be built has been, and so has everything
inside it.
-/

set_option autoImplicit false
namespace MatchTree

/-- The name and the depth of a node that an event says is reached. -/
def Event.reached? : Event → Option (String × Nat)
  | resolving name _ depth => some (name, depth)
  | _ => none

namespace Site

/-- That the parent descends to a node. The tree itself is not descended to. -/
def descent (site : Site) : List Event :=
  match site.above with
  | some (name, position) => [.resolvingNested name position site.node.name]
  | none => []

/-- That a node is reached. -/
def arrival (site : Site) : Event :=
  .resolving site.node.name site.node.arguments.length site.place.length

def events (site : Site) : List Event := site.descent ++ [site.arrival]

theorem reached?_descent (site : Site) : site.descent.filterMap Event.reached? = [] := by
  rw [descent]
  cases site.above <;> rfl

theorem level_events (site : Site) :
    (∀ event ∈ site.descent, event.level = .trace) ∧ site.arrival.level = .debug := by
  refine ⟨?_, rfl⟩
  rw [descent]
  cases site.above with
  | none => exact fun _ member => nomatch member
  | some above => exact fun _ member => List.mem_singleton.mp member ▸ rfl

theorem reached?_flatMap_events (sites : List Site) :
    (sites.flatMap events).filterMap Event.reached? =
      sites.map fun site => (site.node.name, site.place.length) := by
  induction sites with
  | nil => rfl
  | cons site rest ih =>
    rw [List.flatMap_cons, List.filterMap_append, ih, events, List.filterMap_append,
      reached?_descent]
    rfl

end Site

namespace Registry

/-- The name of a node is not bound. -/
def Misses (registry : Registry) (node : Node) (failure : Failure) : Prop :=
  registry.lookup node.name = none ∧ failure = .unknownExpander node.name

/-- What a node is made of resolves, but it cannot be built from that, or is then no expander. -/
def Refuses (registry : Registry) (log : LogId) (node : Node) (failure : Failure) : Prop :=
  ∃ implementation items, registry.lookup node.name = some implementation ∧
    List.Forall₂ (Argument.Related (registry.Makes log)) node.arguments items ∧
    construct implementation ⟨node.name, items⟩ log = .error failure

/-- The resolution of a tree that fails at one of its nodes. Every node before it has a bound name
and, unless it is around it, resolves. The events end before the node is reached if its name is not
bound, and else with those inside it. -/
structure StopsAt (registry : Registry) (log : LogId) (before : List Site) (site : Site)
    (failure : Failure) (events : List Event) : Prop where
  earlier : ∀ other ∈ before, (registry.lookup other.node.name).isSome ∧
    (other.place <+: site.place ∨ registry.Resolves log other.node)
  cut : (registry.Misses site.node failure ∧
      events = before.flatMap Site.events ++ site.descent) ∨
    (registry.Refuses log site.node failure ∧
      events = (before ++ site.subtree).flatMap Site.events)

/-- What is announced of some nodes, by the outcome: all of them, or up to the one that fails. -/
def Announces {α : Type} (registry : Registry) (log : LogId) (nodes : List Site)
    (outcome : Except Failure α) (events : List Event) : Prop :=
  match outcome with
  | .ok _ => events = nodes.flatMap Site.events ∧
      ∀ site ∈ nodes, (registry.lookup site.node.name).isSome ∧ registry.Resolves log site.node
  | .error failure => ∃ before site later, nodes = before ++ site.subtree ++ later ∧
      registry.StopsAt log before site failure events

variable {registry : Registry} {log : LogId} {α β : Type} {nodes more : List Site}
  {outcome : Except Failure α} {events later : List Event}

theorem Announces.map (f : α → β) (announces : registry.Announces log nodes outcome events) :
    registry.Announces log nodes (outcome.map f) events := by
  cases outcome <;> exact announces

/-- After a failure nothing more is announced. -/
theorem Announces.append_right {failure : Failure}
    (announces : registry.Announces log nodes (.error failure : Except Failure α) events)
    (more : List Site) :
    registry.Announces log (nodes ++ more) (.error failure : Except Failure β) events := by
  obtain ⟨before, site, rest, rfl, stops⟩ := announces
  exact ⟨before, site, rest ++ more, by simp only [List.append_assoc], stops⟩

theorem Announces.append {a : α} {outcome : Except Failure β}
    (announces : registry.Announces log nodes (.ok a) events)
    (next : registry.Announces log more outcome later) :
    registry.Announces log (nodes ++ more) outcome (events ++ later) := by
  obtain ⟨rfl, resolve⟩ := announces
  cases outcome with
  | ok b =>
    obtain ⟨rfl, resolve'⟩ := next
    refine ⟨List.flatMap_append.symm, fun site member => ?_⟩
    exact (List.mem_append.mp member).elim (resolve site) (resolve' site)
  | error failure =>
    obtain ⟨before, site, rest, rfl, earlier, cut⟩ := next
    refine ⟨nodes ++ before, site, rest, by simp only [List.append_assoc], ⟨?_, ?_⟩⟩
    · intro other member
      refine (List.mem_append.mp member).elim (fun first => ?_) (earlier other)
      exact ⟨(resolve other first).1, .inr (resolve other first).2⟩
    · obtain ⟨misses, rfl⟩ | ⟨refuses, rfl⟩ := cut
      · exact .inl ⟨misses, by simp only [List.flatMap_append, List.append_assoc]⟩
      · exact .inr ⟨refuses, by simp only [List.flatMap_append, List.append_assoc]⟩

/-- What fails inside a node fails the node, which has been reached. -/
theorem Announces.under {site : Site} {failure : Failure}
    (announces : registry.Announces log nodes (.error failure : Except Failure α) events)
    (bound : (registry.lookup site.node.name).isSome)
    (inside : ∀ other ∈ nodes, site.place <+: other.place) :
    registry.Announces log (site :: nodes) (.error failure : Except Failure β)
      (site.events ++ events) := by
  obtain ⟨before, failing, rest, rfl, earlier, cut⟩ := announces
  have within : site.place <+: failing.place := by
    refine inside failing (List.mem_append_left _ (List.mem_append_right _ ?_))
    rw [Site.subtree, sites_eq_cons]
    exact List.mem_cons_self
  refine ⟨site :: before, failing, rest, by simp only [List.cons_append], ⟨?_, ?_⟩⟩
  · intro other member
    obtain rfl | member := List.mem_cons.mp member
    · exact ⟨bound, .inl within⟩
    · exact earlier other member
  · obtain ⟨misses, rfl⟩ | ⟨refuses, rfl⟩ := cut
    · exact .inl ⟨misses, by simp only [List.flatMap_cons, List.append_assoc]⟩
    · exact .inr ⟨refuses, by simp only [List.cons_append, List.flatMap_cons]⟩

/-! ## Steps -/

section
variable {name : String} {arguments rest : List (Argument Node)} {depth position : Nat}
  {implementation : Implementation} {steps : List Step} {failure : Failure} {child : Node}

theorem resolveAt_of_unknown (unknown : registry.lookup name = none) :
    registry.resolveAt log depth ⟨name, arguments⟩ = (.error (.unknownExpander name), []) := by
  simp only [resolveAt, unknown]

theorem resolveAt_of_error (bound : registry.lookup name = some implementation)
    (inside : registry.resolveArguments log depth name 0 arguments = (.error failure, steps)) :
    registry.resolveAt log depth ⟨name, arguments⟩ =
      (.error failure, .reached name arguments.length depth :: steps) := by
  simp only [resolveAt, bound, inside]

theorem resolveAt_of_ok {items : List (Argument Expander)}
    (bound : registry.lookup name = some implementation)
    (inside : registry.resolveArguments log depth name 0 arguments = (.ok items, steps)) :
    registry.resolveAt log depth ⟨name, arguments⟩ = (construct implementation ⟨name, items⟩ log,
      .reached name arguments.length depth :: (steps ++ [.built ⟨name, items⟩ log])) := by
  simp only [resolveAt, bound, inside]

theorem resolveArguments_of_error
    (first : registry.resolveAt log (depth + 1) child = (.error failure, steps)) :
    registry.resolveArguments log depth name position (.nested child :: rest) =
      (.error failure, .descended name position child.name :: steps) := by
  simp only [resolveArguments, first]

theorem resolveArguments_of_ok {e : Expander}
    (first : registry.resolveAt log (depth + 1) child = (.ok e, steps)) :
    registry.resolveArguments log depth name position (.nested child :: rest) =
      let later := registry.resolveArguments log depth name (position + 1) rest
      (later.1.map (.nested e :: ·), .descended name position child.name :: (steps ++ later.2)) := by
  simp only [resolveArguments, first]

end

variable (registry log)

mutual

/-- Together with the descent to it, the events of a tree are those of its nodes. -/
theorem announces_resolveAt : ∀ (node : Node) (place : Place) (above : Option (String × Nat)),
    registry.Announces log (sites above place node) (registry.resolveAt log place.length node).1
      (Site.descent ⟨place, above, node⟩ ++
        (registry.resolveAt log place.length node).2.filterMap Step.event?)
  | ⟨name, arguments⟩, place, above => by
    let site : Site := ⟨place, above, ⟨name, arguments⟩⟩
    have subtree : site.subtree = site :: sitesOfArguments name place 0 arguments :=
      sites_eq_cons above place _
    rw [← Site.subtree.eq_1 site]
    cases bound : registry.lookup name with
    | none =>
      rw [resolveAt_of_unknown bound]
      refine ⟨[], site, [], (List.append_nil _).symm, ⟨by simp, .inl ⟨⟨bound, rfl⟩, ?_⟩⟩⟩
      exact List.append_nil _
    | some implementation =>
      have known : (registry.lookup site.node.name).isSome := Option.isSome_of_eq_some bound
      have reached (steps : List Step) : site.descent ++
          (Step.reached name arguments.length place.length :: steps).filterMap Step.event? =
            site.events ++ steps.filterMap Step.event? := by
        rw [Site.events, List.append_assoc]
        rfl
      have inner := announces_resolveArguments arguments place name 0
      cases inside : registry.resolveArguments log place.length name 0 arguments with
      | mk outcome steps =>
      rw [inside] at inner
      cases outcome with
      | error failure =>
        rw [resolveAt_of_error bound inside, reached, subtree]
        exact inner.under known fun other member => (below_of_mem_sitesOfArguments member).inside
      | ok items =>
        obtain ⟨told, resolve⟩ := inner
        have related := resolveArguments_ok_iff.mp (congrArg Prod.fst inside)
        have events : site.events ++ (steps ++ [Step.built ⟨name, items⟩ log]).filterMap Step.event? =
            site.subtree.flatMap Site.events := by
          rw [subtree, List.flatMap_cons, List.filterMap_append, told]
          exact congrArg _ (List.append_nil _)
        rw [resolveAt_of_ok bound inside, reached, events]
        cases made : construct implementation ⟨name, items⟩ log with
        | ok e =>
          refine ⟨rfl, ?_⟩
          rw [subtree]
          refine List.forall_mem_cons.mpr ⟨⟨known, e, ?_⟩, resolve⟩
          rw [Makes, Registry.resolve, resolveAt_fst, bound]
          exact ok_bind_iff.mpr ⟨items, resolveArguments_ok_iff.mpr related, made⟩
        | error failure =>
          exact ⟨[], site, [], (List.append_nil _).symm,
            ⟨by simp, .inr ⟨⟨_, items, bound, related, made⟩, rfl⟩⟩⟩

theorem announces_resolveArguments : ∀ (arguments : List (Argument Node)) (place : Place)
    (name : String) (position : Nat),
    registry.Announces log (sitesOfArguments name place position arguments)
      (registry.resolveArguments log place.length name position arguments).1
      ((registry.resolveArguments log place.length name position arguments).2.filterMap
        Step.event?)
  | [], _, _, _ => ⟨rfl, fun _ member => nomatch member⟩
  | .literal v :: rest, place, name, position =>
    (announces_resolveArguments rest place name (position + 1)).map _
  | .nested child :: rest, place, name, position => by
    have first := announces_resolveAt child (place ++ [position]) (some (name, position))
    have later := announces_resolveArguments rest place name (position + 1)
    rw [List.length_append, List.length_singleton] at first
    rw [sitesOfArguments]
    cases inside : registry.resolveAt log (place.length + 1) child with
    | mk outcome steps =>
    rw [inside] at first
    cases outcome with
    | error failure =>
      rw [resolveArguments_of_error inside]
      exact first.append_right _
    | ok e =>
      rw [resolveArguments_of_ok inside]
      have both := first.append (later.map (.nested e :: ·))
      rw [List.append_assoc, ← List.filterMap_append] at both
      exact both

end

variable {registry log} {node : Node}

/-- What a resolution of a whole tree announces. -/
theorem announces_resolve (registry : Registry) (log : LogId) (node : Node) :
    registry.Announces log node.sites (registry.resolve node log).1
      ((registry.resolve node log).2.filterMap Step.event?) :=
  announces_resolveAt registry log node [] none

theorem StopsAt.front_of_full {before later : List Site} {site : Site} {failure : Failure}
    (stops : registry.StopsAt log before site failure events) :
    events <+: (before ++ site.subtree ++ later).flatMap Site.events := by
  rw [List.flatMap_append]
  obtain ⟨_, rfl⟩ | ⟨_, rfl⟩ := stops.cut
  · rw [List.flatMap_append, Site.subtree, sites_eq_cons, List.flatMap_cons, Site.events]
    simp only [List.append_assoc]
    exact (List.prefix_append_right_inj _).mpr (List.prefix_append _ _)
  · exact List.prefix_append _ _

/-- Nodes are announced in pre-order, that is by their places in the order of a dictionary: each by
a debug event with its name, the number of its arguments and its depth, and each nested one right
after a trace event with the name of its parent, its position there and its own name. A resolution
that succeeds announces every node. One that fails does so at a node before which every node has a
bound name: the events end before that node is reached if its name is not bound, and otherwise,
where it cannot be built or is no expander, with the last inside it. -/
theorem resolve_announces (registry : Registry) (node : Node) (log : LogId) :
    let announced := (registry.resolve node log).2.filterMap Step.event?
    let full := node.sites.flatMap Site.events
    (node.sites.Pairwise fun site site' => site.place < site'.place) ∧
    (∀ place n, (∃ site ∈ node.sites, site.place = place ∧ site.node = n) ↔
      node.at? place = some n) ∧
    (∀ site ∈ node.sites, (site.place = [] ∧ site.above = none) ∨
      ∃ outer position parent, site.place = outer ++ [position] ∧
        node.at? outer = some parent ∧ site.above = some (parent.name, position)) ∧
    (∀ site : Site, (∀ event ∈ site.descent, event.level = .trace) ∧
      site.arrival.level = .debug) ∧
    (∀ e, registry.Makes log node e → announced = full ∧
      (announced.filterMap Event.reached?).map Prod.fst = node.names ∧
      ∃ deepest, ((announced.filterMap Event.reached?).map Prod.snd).max? = some deepest ∧
        deepest + 1 = node.depth) ∧
    ∀ failure, (registry.resolve node log).1 = .error failure → announced <+: full ∧
      ∃ before site later, node.sites = before ++ site.subtree ++ later ∧
        registry.StopsAt log before site failure announced := by
  intro announced full
  have announces := announces_resolve registry log node
  refine ⟨sites_pairwise none [] node, node.exists_site_iff, node.above_of_mem_sites,
    Site.level_events, ?_, ?_⟩
  · intro e made
    rw [made] at announces
    obtain ⟨all, _⟩ := announces
    have told : announced.filterMap Event.reached? =
        node.sites.map fun site => (site.node.name, site.place.length) :=
      (congrArg _ all).trans (Site.reached?_flatMap_events node.sites)
    obtain ⟨deepest, n, here, long⟩ := node.exists_length_eq
    rw [told, List.map_map, List.map_map]
    refine ⟨all, names_sites none [] node, deepest.length, ?_, long⟩
    rw [List.max?_eq_some_iff]
    constructor
    · obtain ⟨site, member, rfl, _⟩ := (node.exists_site_iff deepest n).mpr here
      exact List.mem_map.mpr ⟨site, member, rfl⟩
    · intro length member
      obtain ⟨site, inside, rfl⟩ := List.mem_map.mp member
      have short := Node.length_lt_depth ((node.exists_site_iff _ _).mp ⟨site, inside, rfl, rfl⟩)
      rw [← long] at short
      exact Nat.le_of_lt_succ short
  · intro failure failed
    rw [failed] at announces
    obtain ⟨before, site, later, split, stops⟩ := announces
    refine ⟨?_, before, site, later, split, stops⟩
    have whole : full = (before ++ site.subtree ++ later).flatMap Site.events :=
      congrArg (List.flatMap Site.events) split
    exact whole ▸ stops.front_of_full

end Registry
end MatchTree
