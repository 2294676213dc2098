/-!
Tables from texts to entries, listed in ascending order of the keys, each key once. Texts
compare by code points, which is also the order of their UTF-8 bytes.
-/

set_option autoImplicit false
namespace MatchTree

abbrev Table (α : Type) := List (String × α)

namespace Table
variable {α : Type}

/-- Puts an entry in its place; an entry of the same key gives way. -/
def insert (key : String) (entry : α) : Table α → Table α
  | [] => [(key, entry)]
  | (k, e) :: rest =>
    if key < k then (key, entry) :: (k, e) :: rest
    else if key = k then (key, entry) :: rest
    else (k, e) :: insert key entry rest

/-- Collects entries listed in any order; of several with one key the last stays. -/
def ofList (pairs : List (String × α)) : Table α :=
  pairs.foldl (fun table pair => insert pair.1 pair.2 table) []

/-- Keys strictly ascending. -/
def Ascending (table : Table α) : Prop :=
  table.Pairwise fun first second => first.1 < second.1

/-- Inserting brings in nothing but the new entry. -/
theorem mem_insert {key : String} {entry : α} {table : Table α} {field : String × α}
    (member : field ∈ table.insert key entry) : field = (key, entry) ∨ field ∈ table := by
  induction table with
  | nil => exact .inl (List.mem_singleton.mp member)
  | cons first rest ih =>
    obtain ⟨k, old⟩ := first
    unfold insert at member
    split at member
    · exact List.mem_cons.mp member
    · split at member
      · exact (List.mem_cons.mp member).imp_right (List.mem_cons_of_mem _)
      · rcases List.mem_cons.mp member with rfl | later
        · exact .inr List.mem_cons_self
        · exact (ih later).imp_right (List.mem_cons_of_mem _)

def keys (table : Table α) : List String := table.map Prod.fst

theorem ascending_insert {table : Table α} (order : table.Ascending) (key : String) (entry : α) :
    (table.insert key entry).Ascending := by
  induction table with
  | nil => exact List.pairwise_singleton _ _
  | cons field rest ih =>
    obtain ⟨k, old⟩ := field
    obtain ⟨first, others⟩ := List.pairwise_cons.mp order
    unfold insert
    split
    · rename_i below
      refine List.pairwise_cons.mpr ⟨fun other member => ?_, order⟩
      rcases List.mem_cons.mp member with rfl | later
      · exact below
      · exact String.lt_trans below (first other later)
    · rename_i notBelow
      split
      · rename_i same
        subst same
        exact List.pairwise_cons.mpr ⟨first, others⟩
      · rename_i ne
        refine List.pairwise_cons.mpr ⟨fun other member => ?_, ih others⟩
        have above : k < key :=
          String.not_le.mp fun le => ne (String.le_antisymm le (String.not_lt.mp notBelow))
        rcases mem_insert member with rfl | there
        · exact above
        · exact first other there

theorem ascending_ofList (pairs : List (String × α)) : (ofList pairs).Ascending := by
  suffices ∀ table : Table α, table.Ascending →
      (pairs.foldl (fun table pair => insert pair.1 pair.2 table) table).Ascending from
    this [] .nil
  induction pairs with
  | nil => exact fun _ order => order
  | cons pair rest ih => exact fun table order => ih _ (ascending_insert order pair.1 pair.2)

def get? (table : Table α) (key : String) : Option α := table.lookup key

def contains (table : Table α) (key : String) : Bool := (table.get? key).isSome

end Table
end MatchTree
