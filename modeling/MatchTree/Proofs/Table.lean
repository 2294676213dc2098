import MatchTree.Table

/-!
What inserting into a table does to look-ups, for tables in any order, and to tables in
ascending order. Such a table is determined by its look-ups.
-/

set_option autoImplicit false
namespace MatchTree.Table
variable {α : Type}

@[simp] theorem get?_nil (key : String) : get? ([] : Table α) key = none := rfl

theorem get?_cons (key k : String) (entry : α) (rest : Table α) :
    get? ((k, entry) :: rest) key = if key = k then some entry else rest.get? key := by
  by_cases same : key = k
  · simp [get?, same]
  · simp [get?, List.lookup_cons, beq_false_of_ne same, same]

@[simp] theorem get?_insert_self (key : String) (entry : α) (table : Table α) :
    (table.insert key entry).get? key = some entry := by
  induction table with
  | nil => simp [insert, get?_cons]
  | cons field rest ih =>
    obtain ⟨k, old⟩ := field
    unfold insert
    split
    · simp [get?_cons]
    · split
      · simp [get?_cons]
      · rename_i ne
        rw [get?_cons, if_neg ne, ih]

theorem get?_insert_of_ne {key other : String} (entry : α) (table : Table α) (ne : other ≠ key) :
    (table.insert key entry).get? other = table.get? other := by
  induction table with
  | nil => simp [insert, get?_cons, ne]
  | cons field rest ih =>
    obtain ⟨k, old⟩ := field
    unfold insert
    split
    · simp [get?_cons, ne]
    · split
      · rename_i same
        simp [get?_cons, ne, ← same]
      · simp [get?_cons, ih]

theorem get?_insert (key other : String) (entry : α) (table : Table α) :
    (table.insert key entry).get? other = if other = key then some entry else table.get? other := by
  by_cases same : other = key
  · simp [same]
  · simp [same, get?_insert_of_ne]

/-- A key above all others goes to the end. -/
theorem insert_eq_append {key : String} (entry : α) {table : Table α}
    (above : ∀ field ∈ table, field.1 < key) :
    table.insert key entry = table ++ [(key, entry)] := by
  induction table with
  | nil => rfl
  | cons field rest ih =>
    obtain ⟨k, old⟩ := field
    have below : k < key := above (k, old) (by simp)
    have notBelow : ¬ key < k := fun h => String.lt_irrefl _ (String.lt_trans h below)
    have ne : key ≠ k := fun same => String.lt_irrefl _ (same ▸ below)
    simp only [insert, notBelow, ne, if_false, List.cons_append]
    rw [ih fun field member => above field (List.mem_cons_of_mem _ member)]

theorem foldl_insert_eq_append (pairs : List (String × α)) (table : Table α)
    (order : Ascending (table ++ pairs)) :
    pairs.foldl (fun table pair => insert pair.1 pair.2 table) table = table ++ pairs := by
  induction pairs generalizing table with
  | nil => simp
  | cons pair rest ih =>
    have above : ∀ field ∈ table, field.1 < pair.1 := fun field member =>
      (List.pairwise_append.mp order).2.2 field member pair (by simp)
    rw [List.foldl_cons, insert_eq_append pair.2 above, ih]
    · simp
    · simpa using order

/-- Listing a table that is in order collects the table. -/
theorem ofList_of_ascending {table : Table α} (order : Ascending table) : ofList table = table := by
  simpa [ofList] using foldl_insert_eq_append table [] order

/-! ## Keys -/

theorem get?_eq_none_iff {table : Table α} {key : String} :
    table.get? key = none ↔ key ∉ table.keys := by
  induction table with
  | nil => simp [keys]
  | cons field rest ih =>
    obtain ⟨k, entry⟩ := field
    rw [get?_cons]
    by_cases same : key = k
    · simp [keys, same]
    · rw [if_neg same, ih]
      simp [keys, same]

theorem contains_iff {table : Table α} {key : String} :
    table.contains key = true ↔ key ∈ table.keys := by
  rw [contains, Option.isSome_iff_ne_none, Ne, get?_eq_none_iff, Classical.not_not]

theorem mem_of_get? {table : Table α} {key : String} {entry : α}
    (found : table.get? key = some entry) : (key, entry) ∈ table := by
  induction table with
  | nil => contradiction
  | cons field rest ih =>
    obtain ⟨k, first⟩ := field
    rw [get?_cons] at found
    split at found
    · rename_i same
      obtain rfl := Option.some.inj found
      exact same ▸ List.mem_cons_self
    · exact List.mem_cons_of_mem _ (ih found)

theorem mem_keys {table : Table α} {field : String × α} (member : field ∈ table) :
    field.1 ∈ table.keys :=
  List.mem_map_of_mem member

theorem keys_subset_of_get? {β : Type} {table : Table α} {other : Table β}
    (found : ∀ field ∈ table, ∃ entry, other.get? field.1 = some entry) :
    table.keys ⊆ other.keys := by
  intro key member
  obtain ⟨field, there, rfl⟩ := List.mem_map.mp member
  obtain ⟨entry, known⟩ := found field there
  exact mem_keys (mem_of_get? known)

theorem get?_of_mem {table : Table α} (distinct : table.keys.Nodup) {key : String} {entry : α}
    (member : (key, entry) ∈ table) : table.get? key = some entry := by
  induction table with
  | nil => contradiction
  | cons field rest ih =>
    obtain ⟨k, first⟩ := field
    obtain ⟨absent, others⟩ := List.nodup_cons.mp distinct
    rw [get?_cons]
    rcases List.mem_cons.mp member with same | later
    · obtain ⟨rfl, rfl⟩ := Prod.mk.inj same
      exact if_pos rfl
    · have ne : key ≠ k := by
        rintro rfl
        exact absent (List.mem_map.mpr ⟨(key, entry), later, rfl⟩)
      rw [if_neg ne]
      exact ih others later

theorem Ascending.keys {table : Table α} (order : table.Ascending) :
    table.keys.Pairwise (· < ·) :=
  List.pairwise_map.mpr order

/-- Only the keys are looked at. -/
theorem Ascending.of_keys {β : Type} {table : Table α} {other : Table β} (order : table.Ascending)
    (same : other.keys = table.keys) : other.Ascending :=
  List.pairwise_map.mp (same ▸ order.keys : other.keys.Pairwise (· < ·))

theorem Ascending.nodup_keys {table : Table α} (order : table.Ascending) : table.keys.Nodup := by
  refine order.keys.imp ?_
  rintro first second below rfl
  exact String.lt_irrefl _ below

/-- A key below all others is not there. -/
theorem get?_eq_none_of_below {table : Table α} {key : String}
    (below : ∀ field ∈ table, key < field.1) : table.get? key = none := by
  rw [get?_eq_none_iff]
  intro member
  obtain ⟨field, there, rfl⟩ := List.mem_map.mp member
  exact String.lt_irrefl _ (below field there)

theorem Ascending.get?_eq_none {key k : String} {entry : α} {rest : Table α}
    (order : Ascending ((k, entry) :: rest)) (below : key < k) :
    get? ((k, entry) :: rest) key = none := by
  refine get?_eq_none_of_below fun field member => ?_
  rcases List.mem_cons.mp member with rfl | later
  · exact below
  · exact String.lt_trans below ((List.pairwise_cons.mp order).1 field later)

/-- Tables in order with the same look-ups are the same. -/
theorem ext_of_get? {first second : Table α} (order : first.Ascending) (order' : second.Ascending)
    (same : ∀ key, first.get? key = second.get? key) : first = second := by
  induction first generalizing second with
  | nil =>
    cases second with
    | nil => rfl
    | cons field rest =>
      have found := same field.1
      rw [get?_cons, if_pos rfl] at found
      contradiction
  | cons field rest ih =>
    obtain ⟨k, entry⟩ := field
    cases second with
    | nil =>
      have found := same k
      rw [get?_cons, if_pos rfl] at found
      contradiction
    | cons field' rest' =>
      obtain ⟨k', entry'⟩ := field'
      -- neither first key can lie below the other
      have keys : k = k' := by
        apply String.le_antisymm
        · refine String.not_lt.mp fun below => ?_
          have found := same k'
          rw [order.get?_eq_none below, get?_cons, if_pos rfl] at found
          contradiction
        · refine String.not_lt.mp fun below => ?_
          have found := same k
          rw [order'.get?_eq_none below, get?_cons, if_pos rfl] at found
          contradiction
      subst keys
      have entries := same k
      simp only [get?_cons, if_true, Option.some.injEq] at entries
      subst entries
      obtain ⟨above, others⟩ := List.pairwise_cons.mp order
      obtain ⟨above', others'⟩ := List.pairwise_cons.mp order'
      rw [ih others others' fun key => ?_]
      by_cases ne : key = k
      · subst ne
        rw [get?_eq_none_of_below above, get?_eq_none_of_below above']
      · have rest := same key
        rwa [get?_cons, get?_cons, if_neg ne, if_neg ne] at rest

theorem length_insert {table : Table α} (order : table.Ascending) (key : String) (entry : α) :
    (table.insert key entry).length = table.length + if table.contains key then 0 else 1 := by
  induction table with
  | nil => simp [insert, contains]
  | cons field rest ih =>
    obtain ⟨k, old⟩ := field
    obtain ⟨above, others⟩ := List.pairwise_cons.mp order
    unfold insert contains
    split
    · rename_i below
      simp [order.get?_eq_none below]
    · split
      · rename_i same
        simp [get?_cons, same]
      · rename_i ne
        rw [get?_cons, if_neg ne, List.length_cons, ih others, List.length_cons, contains]
        omega

/-! ## Several entries -/

/-- Puts entries in their places, one after the other. -/
def insertAll (pairs : List (String × α)) (table : Table α) : Table α :=
  pairs.foldl (fun table pair => insert pair.1 pair.2 table) table

@[simp] theorem insertAll_nil (table : Table α) : insertAll [] table = table := rfl

theorem insertAll_cons (key : String) (entry : α) (rest : List (String × α)) (table : Table α) :
    insertAll ((key, entry) :: rest) table = insertAll rest (table.insert key entry) := rfl

theorem ofList_eq_insertAll (pairs : List (String × α)) : ofList pairs = insertAll pairs [] := rfl

theorem mem_insertAll {pairs : List (String × α)} {table : Table α} {field : String × α}
    (member : field ∈ insertAll pairs table) : field ∈ pairs ∨ field ∈ table := by
  induction pairs generalizing table with
  | nil => exact .inr member
  | cons pair rest ih =>
    rcases ih member with later | here
    · exact .inl (List.mem_cons_of_mem _ later)
    · rcases mem_insert here with rfl | before
      · exact .inl List.mem_cons_self
      · exact .inr before

/-- Collecting brings in nothing but what is listed. -/
theorem mem_ofList {pairs : List (String × α)} {field : String × α}
    (member : field ∈ ofList pairs) : field ∈ pairs := by
  rw [ofList_eq_insertAll] at member
  exact (mem_insertAll member).resolve_right List.not_mem_nil

theorem ascending_insertAll {table : Table α} (order : table.Ascending)
    (pairs : List (String × α)) : (insertAll pairs table).Ascending := by
  induction pairs generalizing table with
  | nil => exact order
  | cons pair rest ih => exact ih (ascending_insert order pair.1 pair.2)

theorem get?_insertAll {pairs : List (String × α)} (distinct : (keys pairs).Nodup)
    (table : Table α) (key : String) :
    (insertAll pairs table).get? key = (get? pairs key).or (table.get? key) := by
  induction pairs generalizing table with
  | nil => rfl
  | cons pair rest ih =>
    obtain ⟨k, entry⟩ := pair
    obtain ⟨absent, others⟩ := List.nodup_cons.mp distinct
    rw [insertAll_cons, ih others, get?_insert, get?_cons]
    by_cases same : key = k
    · subst same
      have missing : get? rest key = none := get?_eq_none_iff.mpr absent
      simp [missing]
    · simp [same]

theorem get?_ofList {pairs : List (String × α)} (distinct : (keys pairs).Nodup) (key : String) :
    (ofList pairs).get? key = get? pairs key := by
  rw [ofList_eq_insertAll, get?_insertAll distinct, get?_nil, Option.or_none]

/-- Entries that are already in place can be put there again without a change. -/
theorem insertAll_insertAll {pairs : List (String × α)} (distinct : (keys pairs).Nodup)
    {table : Table α} (order : table.Ascending) :
    insertAll pairs (insertAll pairs table) = insertAll pairs table := by
  have once := ascending_insertAll order pairs
  refine ext_of_get? (ascending_insertAll once pairs) once fun key => ?_
  rw [get?_insertAll distinct, get?_insertAll distinct, ← Option.or_assoc, Option.or_self]

/-- A table grows by the keys that are new to it. -/
theorem length_insertAll {pairs : List (String × α)} (distinct : (keys pairs).Nodup)
    {table : Table α} (order : table.Ascending) :
    (insertAll pairs table).length =
      table.length + ((keys pairs).filter fun key => !table.contains key).length := by
  induction pairs generalizing table with
  | nil => rfl
  | cons pair rest ih =>
    obtain ⟨k, entry⟩ := pair
    obtain ⟨absent, others⟩ := List.nodup_cons.mp distinct
    -- the later keys are new after this one exactly if they were before it
    have unchanged : ((keys rest).filter fun key => !(table.insert k entry).contains key) =
        (keys rest).filter fun key => !table.contains key := by
      refine List.filter_congr fun key member => ?_
      have ne : key ≠ k := by
        rintro rfl
        exact absent member
      rw [contains, contains, get?_insert_of_ne entry table ne]
    rw [insertAll_cons, ih others (ascending_insert order k entry), unchanged,
      length_insert order]
    have split : keys ((k, entry) :: rest) = k :: keys rest := rfl
    rw [split, List.filter_cons]
    cases table.contains k with
    | true => simp
    | false =>
      simp
      omega

theorem length_ofList {pairs : List (String × α)} (distinct : (keys pairs).Nodup) :
    (ofList pairs).length = pairs.length := by
  have new : ((keys pairs).filter fun key => !contains ([] : Table α) key) = keys pairs :=
    List.filter_eq_self.mpr fun _ _ => rfl
  rw [ofList_eq_insertAll, length_insertAll distinct .nil, new]
  simp [keys]

end MatchTree.Table
