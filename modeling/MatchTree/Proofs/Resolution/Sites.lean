import Mathlib.Data.List.Lex
import MatchTree.Proofs.Resolution.Places

/-!
The nodes of a tree in the order in which a resolution reaches them.

A node comes before the nodes inside it, and what is inside one argument before what is inside a
later one. Places sorted as words of a dictionary are in the same order.
-/

set_option autoImplicit false
namespace MatchTree

namespace Node

/-- What passes from the trees among the arguments of a node to the node holds of every tree. -/
@[induction_eliminator]
theorem inductionOn {motive : Node → Prop}
    (mk : ∀ name arguments, (∀ child, .nested child ∈ arguments → motive child) →
      motive ⟨name, arguments⟩) (node : Node) : motive node :=
  -- lists of arguments and single arguments each have a motive of their own
  @Node.rec motive (fun arguments => ∀ child, .nested child ∈ arguments → motive child)
    (fun argument => ∀ child, .nested child = argument → motive child)
    mk (fun _ member => nomatch member)
    (fun _ _ first rest child member => (List.mem_cons.mp member).elim (first child) (rest child))
    (fun _ _ same => nomatch same)
    (fun _ holds _ same => (Argument.nested.inj same).symm ▸ holds) node

/-- The tree at a place in a tree. -/
def at? (node : Node) : Place → Option Node
  | [] => some node
  | position :: place =>
    match node.arguments[position]? with
    | some (.nested child) => child.at? place
    | _ => none

theorem at?_cons_iff {node n : Node} {position : Nat} {place : Place} :
    node.at? (position :: place) = some n ↔
      ∃ child, node.arguments[position]? = some (.nested child) ∧ child.at? place = some n := by
  rw [at?]
  split
  case h_1 child found => simp [found]
  case h_2 other => simpa using fun child found => absurd found (other child)

end Node

/-- A node of a tree: its place, and the name of the node it is an argument of, with its position
there. The tree itself is an argument of none. -/
structure Site where
  place : Place
  above : Option (String × Nat)
  node : Node

mutual

/-- The nodes of a tree that stands at a place, a parent before its children. -/
def sites (above : Option (String × Nat)) (place : Place) : Node → List Site
  | ⟨name, arguments⟩ => ⟨place, above, ⟨name, arguments⟩⟩ :: sitesOfArguments name place 0 arguments

def sitesOfArguments (name : String) (place : Place) (position : Nat) :
    List (Argument Node) → List Site
  | [] => []
  | .literal _ :: rest => sitesOfArguments name place (position + 1) rest
  | .nested child :: rest =>
    sites (some (name, position)) (place ++ [position]) child ++
      sitesOfArguments name place (position + 1) rest

end

/-- The nodes of a whole tree. -/
def Node.sites (node : Node) : List Site := MatchTree.sites none [] node

/-- A node and those inside it. -/
def Site.subtree (site : Site) : List Site := MatchTree.sites site.above site.place site.node

section
variable {name : String} {place : Place} {position : Nat} {above : Option (String × Nat)}
  {arguments : List (Argument Node)} {node : Node} {site : Site}

theorem sites_eq_cons (above : Option (String × Nat)) (place : Place) (node : Node) :
    sites above place node =
      ⟨place, above, node⟩ :: sitesOfArguments node.name place 0 node.arguments := by
  obtain ⟨name, arguments⟩ := node
  rw [sites]

/-- The nodes among arguments are those of the trees among them. -/
theorem mem_sitesOfArguments_iff :
    site ∈ sitesOfArguments name place position arguments ↔
      ∃ i child, arguments[i]? = some (.nested child) ∧
        site ∈ sites (some (name, position + i)) (place ++ [position + i]) child := by
  induction arguments generalizing position with
  | nil => simp [sitesOfArguments]
  | cons argument rest ih =>
    -- the first of the arguments, or one of the rest
    have split (holds : Nat → Node → Prop) :
        (∃ i child, (argument :: rest)[i]? = some (.nested child) ∧ holds i child) ↔
          (∃ child, argument = .nested child ∧ holds 0 child) ∨
            ∃ i child, rest[i]? = some (.nested child) ∧ holds (i + 1) child := by
      constructor
      · rintro ⟨_ | i, child, found, here⟩
        · exact .inl ⟨child, by simpa using found, here⟩
        · exact .inr ⟨i, child, by simpa using found, here⟩
      · rintro (⟨child, rfl, here⟩ | ⟨i, child, found, here⟩)
        · exact ⟨0, child, rfl, here⟩
        · exact ⟨i + 1, child, by simpa using found, here⟩
    rw [split]
    simp only [← Nat.add_assoc, Nat.add_right_comm _ _ 1]
    cases argument with
    | literal v => simp [sitesOfArguments, ih]
    | nested child => simp [sitesOfArguments, ih]

/-- What stands in the list is the tree at its place, and it is told what it is an argument of. -/
theorem at?_of_mem_sites (member : site ∈ sites above place node) :
    ∃ below, site.place = place ++ below ∧ node.at? below = some site.node ∧
      (below = [] → site.above = above) ∧
      ∀ outer position, below = outer ++ [position] → ∃ parent, node.at? outer = some parent ∧
        site.above = some (parent.name, position) := by
  induction node generalizing above place with
  | mk name arguments ih =>
    rw [sites, List.mem_cons] at member
    obtain rfl | inside := member
    · exact ⟨[], (List.append_nil place).symm, rfl, fun _ => rfl, by simp⟩
    obtain ⟨i, child, found, inside⟩ := mem_sitesOfArguments_iff.mp inside
    obtain ⟨below, same, here, first, later⟩ := ih child (List.mem_of_getElem? found) inside
    rw [Nat.zero_add] at same first
    refine ⟨i :: below, by simp [same], Node.at?_cons_iff.mpr ⟨child, found, here⟩, by simp, ?_⟩
    intro outer position split
    cases outer with
    | nil =>
      obtain ⟨rfl, rfl⟩ := List.cons.inj split
      exact ⟨_, rfl, first rfl⟩
    | cons j outer =>
      obtain ⟨rfl, rest⟩ := List.cons.inj split
      obtain ⟨parent, outside, above⟩ := later outer position rest
      exact ⟨parent, Node.at?_cons_iff.mpr ⟨child, found, outside⟩, above⟩

theorem exists_site_of_at? {below : Place} {n : Node} (here : node.at? below = some n) :
    ∃ site ∈ sites above place node, site.place = place ++ below ∧ site.node = n := by
  induction below generalizing above place node with
  | nil =>
    obtain rfl := Option.some.inj here
    exact ⟨_, by rw [sites_eq_cons]; exact List.mem_cons_self, (List.append_nil place).symm, rfl⟩
  | cons i below ih =>
    obtain ⟨child, found, here⟩ := Node.at?_cons_iff.mp here
    obtain ⟨site, member, same, rfl⟩ :=
      @ih (place ++ [0 + i]) (some (node.name, 0 + i)) child here
    refine ⟨site, ?_, by simp [same], rfl⟩
    rw [sites_eq_cons]
    exact List.mem_cons_of_mem _ (mem_sitesOfArguments_iff.mpr ⟨i, child, found, member⟩)

/-- The list has the trees that stand at the places of a tree, and no others. -/
theorem Node.exists_site_iff (node : Node) (place : Place) (n : Node) :
    (∃ site ∈ node.sites, site.place = place ∧ site.node = n) ↔ node.at? place = some n := by
  constructor
  · rintro ⟨site, member, rfl, rfl⟩
    obtain ⟨below, same, here, _⟩ := at?_of_mem_sites member
    rwa [same]
  · exact exists_site_of_at?

theorem Node.above_of_mem_sites (node : Node) (site : Site) (member : site ∈ node.sites) :
    (site.place = [] ∧ site.above = none) ∨ ∃ outer position parent,
      site.place = outer ++ [position] ∧ node.at? outer = some parent ∧
        site.above = some (parent.name, position) := by
  obtain ⟨below, same, _, first, later⟩ := at?_of_mem_sites member
  rw [List.nil_append] at same
  obtain rfl | ⟨outer, position, rfl⟩ := below.eq_nil_or_concat'
  · exact .inl ⟨same, first rfl⟩
  · obtain ⟨parent, outside, above⟩ := later outer position rfl
    exact .inr ⟨outer, position, parent, same, outside, above⟩

theorem prefix_of_mem_sites (member : site ∈ sites above place node) : place <+: site.place := by
  obtain ⟨below, same, _⟩ := at?_of_mem_sites member
  exact ⟨below, same.symm⟩

theorem below_of_mem_sitesOfArguments
    (member : site ∈ sitesOfArguments name place position arguments) :
    place.Below position site.place := by
  obtain ⟨i, child, _, inside⟩ := mem_sitesOfArguments_iff.mp member
  exact ⟨position + i, Nat.le_add_right position i, prefix_of_mem_sites inside⟩

/-! ## Order -/

theorem Place.Below.lt {other : Place} (below : Below place position other) : place < other := by
  obtain ⟨i, _, rest, rfl⟩ := below
  have further : place ++ [] < place ++ i :: rest := List.append_left_lt (List.nil_lt_cons i rest)
  rwa [List.append_nil, List.append_cons] at further

theorem Place.Below.lt_of_earlier {first later : Place} (inside : (place ++ [position]) <+: first)
    (below : Below place (position + 1) later) : first < later := by
  obtain ⟨rest, rfl⟩ := inside
  obtain ⟨i, least, rest', rfl⟩ := below
  simp only [List.append_assoc, List.singleton_append]
  exact List.append_left_lt (List.cons_lt_cons_iff.mpr (.inl least))

/-- The list is sorted, so no place occurs twice. -/
theorem sites_pairwise (above : Option (String × Nat)) (place : Place) (node : Node) :
    (sites above place node).Pairwise fun site site' => site.place < site'.place := by
  induction node generalizing above place with
  | mk name arguments ih =>
    rw [sites, List.pairwise_cons]
    refine ⟨fun site inside => (below_of_mem_sitesOfArguments inside).lt, ?_⟩
    generalize 0 = position
    induction arguments generalizing position with
    | nil => simp [sitesOfArguments]
    | cons argument rest later =>
      have rest := later (fun child member => ih child (List.mem_cons_of_mem _ member))
      cases argument with
      | literal v => exact rest (position + 1)
      | nested child =>
        rw [sitesOfArguments, List.pairwise_append]
        refine ⟨ih child List.mem_cons_self _ _, rest (position + 1), ?_⟩
        exact fun first member second member' => Place.Below.lt_of_earlier
          (prefix_of_mem_sites member) (below_of_mem_sitesOfArguments member')

/-- What has an earlier place stands before. -/
theorem Node.mem_before {before later : List Site} {other : Site}
    (split : node.sites = before ++ site.subtree ++ later) (member : other ∈ node.sites)
    (less : other.place < site.place) : other ∈ before := by
  have sorted := sites_pairwise none [] node
  rw [← Node.sites, split, Site.subtree, sites_eq_cons, List.append_assoc, List.pairwise_append,
    List.cons_append, List.pairwise_cons] at sorted
  obtain ⟨_, ⟨after, _⟩, _⟩ := sorted
  rw [split, Site.subtree, sites_eq_cons, List.append_assoc, List.mem_append, List.cons_append,
    List.mem_cons] at member
  obtain inside | rfl | inside := member
  · exact inside
  · exact absurd less (List.lt_irrefl _)
  · exact absurd less (List.lt_asymm (after other inside))

/-! ## Names and depth -/

theorem names_sites (above : Option (String × Nat)) (place : Place) (node : Node) :
    (sites above place node).map (fun site => site.node.name) = node.names := by
  induction node generalizing above place with
  | mk name arguments ih =>
    rw [sites, Node.names, List.map_cons]
    congr 1
    generalize 0 = position
    induction arguments generalizing position with
    | nil => rfl
    | cons argument rest later =>
      have rest := later (fun child member => ih child (List.mem_cons_of_mem _ member))
      cases argument with
      | literal v => exact rest (position + 1)
      | nested child =>
        rw [sitesOfArguments, Node.namesOfArguments, List.map_append, ih child List.mem_cons_self,
          rest (position + 1)]

end

namespace Node

theorem depth_le_of_mem {arguments : List (Argument Node)} {child : Node}
    (member : .nested child ∈ arguments) : child.depth ≤ depthOfArguments arguments := by
  induction arguments with
  | nil => contradiction
  | cons argument rest ih =>
    cases argument with
    | literal v =>
      rw [depthOfArguments]
      exact ih (by simpa using member)
    | nested first =>
      rw [depthOfArguments]
      obtain same | later := List.mem_cons.mp member
      · obtain rfl := Argument.nested.inj same
        exact Nat.le_max_left _ _
      · exact Nat.le_trans (ih later) (Nat.le_max_right _ _)

theorem exists_depth_eq {arguments : List (Argument Node)} (nests : depthOfArguments arguments ≠ 0) :
    ∃ child, .nested child ∈ arguments ∧ child.depth = depthOfArguments arguments := by
  induction arguments with
  | nil => contradiction
  | cons argument rest ih =>
    cases argument with
    | literal v =>
      rw [depthOfArguments] at nests ⊢
      obtain ⟨child, member, deep⟩ := ih nests
      exact ⟨child, List.mem_cons_of_mem _ member, deep⟩
    | nested first =>
      rw [depthOfArguments]
      obtain more | less := Nat.le_total (depthOfArguments rest) first.depth
      · exact ⟨first, List.mem_cons_self, (Nat.max_eq_left more).symm⟩
      · by_cases flat : depthOfArguments rest = 0
        · exact ⟨first, List.mem_cons_self, by omega⟩
        · obtain ⟨child, member, deep⟩ := ih flat
          exact ⟨child, List.mem_cons_of_mem _ member, deep.trans (Nat.max_eq_right less).symm⟩

/-- Places are no longer than the depth allows. -/
theorem length_lt_depth {node n : Node} {place : Place} (here : node.at? place = some n) :
    place.length < node.depth := by
  induction place generalizing node with
  | nil =>
    obtain ⟨name, arguments⟩ := node
    rw [depth]
    exact Nat.succ_pos _
  | cons position place ih =>
    obtain ⟨child, found, here⟩ := at?_cons_iff.mp here
    have shorter := ih here
    obtain ⟨name, arguments⟩ := node
    have inside : child.depth ≤ depthOfArguments arguments :=
      depth_le_of_mem (List.mem_of_getElem? found)
    rw [depth, List.length_cons]
    omega

/-- Some place is as long as the depth allows. -/
theorem exists_length_eq (node : Node) :
    ∃ place n, node.at? place = some n ∧ place.length + 1 = node.depth := by
  induction node with
  | mk name arguments ih =>
    rw [depth]
    by_cases flat : depthOfArguments arguments = 0
    · exact ⟨[], _, rfl, by rw [flat]; rfl⟩
    · obtain ⟨child, member, deep⟩ := exists_depth_eq flat
      obtain ⟨place, n, here, long⟩ := ih child member
      obtain ⟨position, found⟩ := List.getElem?_of_mem member
      exact ⟨position :: place, n, at?_cons_iff.mpr ⟨child, found, here⟩, by
        rw [List.length_cons, long, deep]⟩

end Node
end MatchTree
