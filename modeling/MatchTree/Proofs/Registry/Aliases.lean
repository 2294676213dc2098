import MatchTree.Proofs.Registry.History

/-!
Alias files bind all their names or none.

Which of the two it is shows in the catalog before anything is bound, and what is bound does
not disturb the catalog. So an identifier that is found once is found until the end.
-/

set_option autoImplicit false
namespace MatchTree.Registry
variable {registry : Registry} {config : Config} {attempt : Attempt}

/-- The attempt failed over an alias and left the registry as it was. -/
structure Refused (registry : Registry) (config : Config) (attempt : Attempt) : Prop where
  unchanged : attempt.registry = registry
  first : ∃ name identifier, (name, identifier) ∈ config.aliases ∧
    registry.catalog.get? identifier = none ∧
    attempt.failure? = some (.unknownImplementation identifier) ∧
    ∀ other missing, (other, missing) ∈ config.aliases →
      registry.catalog.get? missing = none →
        other = name ∨ Text.bytes name < Text.bytes other

/-- The attempt bound every alias to what the catalog held, and changed nothing else. -/
structure Applied (registry : Registry) (config : Config) (attempt : Attempt) : Prop where
  succeeded : attempt.failure? = none
  bound : ∀ name identifier, (name, identifier) ∈ config.aliases →
    ∃ implementation, registry.catalog.get? identifier = some implementation ∧
      attempt.registry.lookup name = some implementation
  others : ∀ name, name ∉ config.aliases.keys →
    attempt.registry.lookup name = registry.lookup name
  catalog : attempt.registry.catalog = registry.catalog
  size : attempt.registry.size =
    registry.size + (config.aliases.keys.filter fun name => !registry.contains name).length
  again : (attempt.registry.apply config).failure? = none ∧
    (attempt.registry.apply config).registry = attempt.registry

/-- The aliases before the first that is missing have smaller names. -/
theorem refused_of_missing {before after : List (String × String)} {name identifier : String}
    (split : config.aliases = before ++ (name, identifier) :: after)
    (knows : registry.KnowsAll before) (missing : registry.catalog.get? identifier = none) :
    Refused registry config (registry.apply config) := by
  rw [apply_of_missing split knows missing]
  have order := config.ascending
  rw [Table.Ascending, split, List.pairwise_append] at order
  obtain ⟨_, fromHere, _⟩ := order
  refine ⟨rfl, name, identifier, by simp [split], missing, rfl, fun other found member gone => ?_⟩
  rw [split] at member
  rcases List.mem_append.mp member with earlier | here
  · exact absurd gone (knows other found earlier)
  · rcases List.mem_cons.mp here with same | later
    · exact .inl (Prod.mk.inj same).1
    · exact .inr (Text.bytes_lt_iff.mpr ((List.pairwise_cons.mp fromHere).1 _ later))

theorem applied_of_knowsAll (order : registry.InOrder) (knows : registry.KnowsAll config.aliases) :
    Applied registry config (registry.apply config) := by
  obtain ⟨left, succeeded⟩ := apply_of_knowsAll knows
  have keys := keys_targets knows
  have distinct : (Table.keys (registry.targets config.aliases)).Nodup := by
    rw [keys]
    exact config.ascending.nodup_keys
  have lookups (name : String) : (registry.apply config).registry.lookup name =
      ((Table.get? config.aliases name).bind registry.catalog.get?).or (registry.lookup name) := by
    rw [left, ← get?_targets knows]
    exact Table.get?_insertAll distinct registry.bindings name
  have catalog : (registry.apply config).registry.catalog = registry.catalog := catalog_apply
  refine ⟨succeeded, fun name identifier member => ?_, fun name absent => ?_, catalog, ?_, ?_⟩
  · obtain ⟨implementation, known⟩ := Option.ne_none_iff_exists'.mp (knows name identifier member)
    refine ⟨implementation, known, ?_⟩
    rw [lookups, Table.get?_of_mem config.ascending.nodup_keys member, Option.bind_some, known,
      Option.some_or]
  · rw [lookups, Table.get?_eq_none_iff.mpr absent, Option.bind_none, Option.none_or]
  · rw [left, ← keys]
    exact Table.length_insertAll distinct order.bindings
  · -- the catalog being the same, so are the targets
    have knows' : (registry.apply config).registry.KnowsAll config.aliases := by
      rw [KnowsAll, catalog]
      exact knows
    obtain ⟨left', succeeded'⟩ := apply_of_knowsAll knows'
    refine ⟨succeeded', ?_⟩
    have targets : (registry.apply config).registry.targets config.aliases =
        registry.targets config.aliases := by rw [targets, catalog, targets]
    rw [left', targets, left]
    exact congrArg (fun bindings => { registry with bindings })
      (Table.insertAll_insertAll distinct order.bindings)

/-- Applying aliases to a registry, whatever was done to it before. -/
theorem apply_allOrNothing (start : Start) (changes : List Change) (config : Config) :
    let registry := start.registry.afterAll changes
    let attempt := registry.apply config
    (attempt.failure?.isSome =
        config.aliases.any fun (_, identifier) => !registry.hasImplementation identifier) ∧
      (Refused registry config attempt ∨ Applied registry config attempt) := by
  intro registry attempt
  have tells : History.Tells start changes.reverse registry := by
    simpa using (History.tells_start start).afterAll changes
  rcases registry.knowsAll_or_missing config.aliases with
    knows | ⟨before, name, identifier, after, split, knows, missing⟩
  · have applied := applied_of_knowsAll tells.order knows
    refine ⟨?_, .inr applied⟩
    rw [applied.succeeded]
    refine (List.any_eq_false.mpr fun (name, identifier) member => ?_).symm
    simpa [hasImplementation, Table.contains] using knows name identifier member
  · have refused := refused_of_missing split knows missing
    refine ⟨?_, .inl refused⟩
    obtain ⟨_, _, _, _, failed, _⟩ := refused.first
    rw [failed]
    refine (List.any_eq_true.mpr ⟨(name, identifier), by simp [split], ?_⟩).symm
    simp [hasImplementation, Table.contains, missing]

end MatchTree.Registry
