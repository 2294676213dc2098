import Mathlib.Data.List.Nodup
import MatchTree.Proofs.Resolution.Schedule

/-!
Places tell the nodes of a tree apart: whatever a schedule does below one argument of a node
happens at places that begin with the place of that argument.
-/

set_option autoImplicit false
namespace MatchTree

namespace Place

/-- Within the argument at a position, or at a later one. -/
def Below (place : Place) (position : Nat) (other : Place) : Prop :=
  ∃ i, position ≤ i ∧ (place ++ [i]) <+: other

variable {place other : Place} {position : Nat}

theorem position_unique {i j : Nat} (first : (place ++ [i]) <+: other)
    (second : (place ++ [j]) <+: other) : i = j := by
  have same : place ++ [i] = place ++ [j] :=
    (List.prefix_of_prefix_length_le first second (by simp)).eq_of_length (by simp)
  simpa using same

theorem Below.ne (below : Below place position other) : other ≠ place := by
  rintro rfl
  obtain ⟨i, _, front⟩ := below
  have longer := front.length_le
  simp only [List.length_append, List.length_singleton] at longer
  omega

theorem Below.inside (below : Below place position other) : place <+: other := by
  obtain ⟨i, _, front⟩ := below
  exact (List.prefix_append place [i]).trans front

theorem Below.mono {later : Nat} (le : position ≤ later) (below : Below place later other) :
    Below place position other := by
  obtain ⟨i, least, front⟩ := below
  exact ⟨i, Nat.le_trans le least, front⟩

theorem Below.of_front (front : (place ++ [position]) <+: other) : Below place position other :=
  ⟨position, Nat.le_refl position, front⟩

/-- Later arguments do not reach into the one at a position. -/
theorem Below.not_earlier (below : Below place (position + 1) other) :
    ¬ (place ++ [position]) <+: other := by
  intro front
  obtain ⟨i, least, inside⟩ := below
  have := position_unique front inside
  omega

end Place

mutual

theorem place_of_mem_schedule : ∀ (node : Node) (place : Place) (task : Task),
    task ∈ schedule place node → place <+: task.place
  | ⟨name, arguments⟩, place, task, member => by
    simp only [schedule, List.mem_cons, List.mem_append, List.not_mem_nil, or_false] at member
    rcases member with rfl | inside | rfl | rfl
    · exact List.prefix_rfl
    · exact (place_of_mem_scheduleArguments arguments place 0 task inside).inside
    · exact List.prefix_rfl
    · exact List.prefix_rfl

theorem place_of_mem_scheduleArguments : ∀ (arguments : List (Argument Node)) (place : Place)
    (position : Nat) (task : Task),
    task ∈ scheduleArguments place position arguments → place.Below position task.place
  | [], _, _, _, member => by simp [scheduleArguments] at member
  | .literal v :: rest, place, position, task, member => by
    rw [scheduleArguments] at member
    exact (place_of_mem_scheduleArguments rest place (position + 1) task member).mono (by omega)
  | .nested child :: rest, place, position, task, member => by
    rw [scheduleArguments, List.mem_append] at member
    rcases member with first | later
    · exact .of_front (place_of_mem_schedule child (place ++ [position]) task first)
    · exact (place_of_mem_scheduleArguments rest place (position + 1) task later).mono (by omega)

end

mutual

/-- Expanders are built children first. -/
theorem sites_schedule : ∀ (node : Node) (place : Place),
    (schedule place node).filterMap Task.site? = postorder place node
  | ⟨name, arguments⟩, place => by
    rw [schedule, postorder, List.filterMap_cons_none rfl, List.filterMap_append,
      sites_scheduleArguments arguments place 0]
    rfl

theorem sites_scheduleArguments : ∀ (arguments : List (Argument Node)) (place : Place)
    (position : Nat),
    (scheduleArguments place position arguments).filterMap Task.site? =
      postorderArguments place position arguments
  | [], _, _ => rfl
  | .literal _ :: rest, place, position => by
    rw [scheduleArguments, postorderArguments, sites_scheduleArguments rest place (position + 1)]
  | .nested child :: rest, place, position => by
    rw [scheduleArguments, postorderArguments, List.filterMap_append,
      sites_schedule child (place ++ [position]),
      sites_scheduleArguments rest place (position + 1)]

end

theorem Task.place_of_site? {task : Task} {site : Place × Node} (built : task.site? = some site) :
    site.1 = task.place := by
  cases task <;> simp_all [Task.site?, Task.place]
  simp [← built]

theorem prefix_of_mem_postorder {node : Node} {place : Place} {site : Place × Node}
    (member : site ∈ postorder place node) : place <+: site.1 := by
  rw [← sites_schedule node place] at member
  obtain ⟨task, scheduled, built⟩ := List.mem_filterMap.mp member
  exact Task.place_of_site? built ▸ place_of_mem_schedule node place task scheduled

theorem below_of_mem_postorderArguments {arguments : List (Argument Node)} {place : Place}
    {position : Nat} {site : Place × Node}
    (member : site ∈ postorderArguments place position arguments) :
    place.Below position site.1 := by
  rw [← sites_scheduleArguments arguments place position] at member
  obtain ⟨task, scheduled, built⟩ := List.mem_filterMap.mp member
  exact Task.place_of_site? built ▸
    place_of_mem_scheduleArguments arguments place position task scheduled

mutual

theorem postorder_nodup : ∀ (node : Node) (place : Place),
    ((postorder place node).map Prod.fst).Nodup
  | ⟨name, arguments⟩, place => by
    rw [postorder, List.map_append, List.nodup_append']
    refine ⟨postorderArguments_nodup arguments place 0, by simp, ?_⟩
    intro other inside same
    obtain ⟨site, member, rfl⟩ := List.mem_map.mp inside
    exact (below_of_mem_postorderArguments member).ne (by simpa using same)

theorem postorderArguments_nodup : ∀ (arguments : List (Argument Node)) (place : Place)
    (position : Nat), ((postorderArguments place position arguments).map Prod.fst).Nodup
  | [], _, _ => by simp [postorderArguments]
  | .literal _ :: rest, place, position => by
    rw [postorderArguments]
    exact postorderArguments_nodup rest place (position + 1)
  | .nested child :: rest, place, position => by
    rw [postorderArguments, List.map_append, List.nodup_append']
    refine ⟨postorder_nodup child (place ++ [position]),
      postorderArguments_nodup rest place (position + 1), ?_⟩
    -- a place inside this argument is not inside a later one
    intro other first later
    obtain ⟨site, member, rfl⟩ := List.mem_map.mp first
    obtain ⟨site', member', same⟩ := List.mem_map.mp later
    exact (below_of_mem_postorderArguments member').not_earlier
      (same ▸ prefix_of_mem_postorder member)

end
end MatchTree
