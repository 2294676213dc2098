import MatchTree.Proofs.Table
import MatchTree.Registry.Change

/-!
What the operations of a registry do to its two tables.

Binding never disturbs the entries of the catalog, and of the implementations that are offered
to the catalog under one title the first one stays.
-/

set_option autoImplicit false
namespace MatchTree

/-- Kinds under their own names. -/
def Kind.entries (kinds : List Kind) : List (String × Implementation) :=
  kinds.map fun kind => (kind.title, .ofKind kind)

theorem Kind.nodup_builtin : (Table.keys (entries builtin)).Nodup := by decide

/-- What the usual names stand for. -/
def usual? (name : String) : Option Implementation := Table.get? (Kind.entries Kind.builtin) name

theorem usual?_title {kind : Kind} (member : kind ∈ Kind.builtin) :
    usual? kind.title = some (.ofKind kind) :=
  Table.get?_of_mem Kind.nodup_builtin (List.mem_map.mpr ⟨kind, member, rfl⟩)

theorem usual?_eq_some_iff {name : String} {implementation : Implementation} :
    usual? name = some implementation ↔
      ∃ kind ∈ Kind.builtin, name = kind.title ∧ implementation = .ofKind kind := by
  constructor
  · intro found
    obtain ⟨kind, member, same⟩ := List.mem_map.mp (Table.mem_of_get? found)
    obtain ⟨rfl, rfl⟩ := Prod.mk.inj same
    exact ⟨kind, member, rfl, rfl⟩
  · rintro ⟨kind, member, rfl, rfl⟩
    exact usual?_title member

/-- Both tables are in order. -/
structure Registry.InOrder (registry : Registry) : Prop where
  bindings : registry.bindings.Ascending
  catalog : registry.catalog.Ascending

namespace Registry
variable {registry : Registry}

/-! ## Lookups -/

theorem lookup_bind (name other : String) (implementation : Implementation) :
    (registry.bind name implementation).1.lookup other =
      if other = name then some implementation else registry.lookup other :=
  Table.get?_insert name other implementation registry.bindings

theorem catalog_bind (name : String) (implementation : Implementation) :
    (registry.bind name implementation).1.catalog = registry.catalog := rfl

theorem register_of_known {name identifier : String} {implementation : Implementation}
    (known : registry.catalog.get? identifier = some implementation) :
    (registry.register name identifier).registry = (registry.bind name implementation).1 ∧
      (registry.register name identifier).failure? = none := by
  simp only [register, known, and_self]

theorem register_of_unknown {name identifier : String}
    (unknown : registry.catalog.get? identifier = none) :
    registry.register name identifier =
      ⟨registry, [], some (.unknownImplementation identifier)⟩ := by
  simp only [register, unknown]

theorem catalog_register {name identifier : String} :
    (registry.register name identifier).registry.catalog = registry.catalog := by
  cases known : registry.catalog.get? identifier with
  | none => rw [register_of_unknown known]
  | some implementation => rw [(register_of_known known).1, catalog_bind]

theorem lookup_registerTitled (name title other : String) (implementation : Implementation) :
    (registry.registerTitled name title implementation).1.lookup other =
      if other = name then some implementation else registry.lookup other :=
  Table.get?_insert name other implementation registry.bindings

/-- An entry that is there stays. -/
theorem catalog_registerTitled (name title identifier : String) (implementation : Implementation) :
    (registry.registerTitled name title implementation).1.catalog.get? identifier =
      (registry.catalog.get? identifier).or
        (if identifier = title then some implementation else none) := by
  have inserted : (registry.registerTitled name title implementation).1.catalog =
      registry.catalog.insert title ((registry.catalog.get? title).getD implementation) := rfl
  rw [inserted, Table.get?_insert]
  by_cases same : identifier = title
  · subst same
    cases registry.catalog.get? identifier <;> simp
  · simp [same]

theorem bindings_registerKinds (kinds : List Kind) :
    (registry.registerKinds kinds).1.bindings =
      Table.insertAll (Kind.entries kinds) registry.bindings := by
  induction kinds generalizing registry with
  | nil => rfl
  | cons kind rest ih => exact ih

theorem catalog_registerKinds (kinds : List Kind) (identifier : String) :
    (registry.registerKinds kinds).1.catalog.get? identifier =
      (registry.catalog.get? identifier).or (Table.get? (Kind.entries kinds) identifier) := by
  induction kinds generalizing registry with
  | nil => exact (Option.or_none).symm
  | cons kind rest ih =>
    have entries : Table.get? (Kind.entries (kind :: rest)) identifier =
        if identifier = kind.title then some (.ofKind kind)
        else Table.get? (Kind.entries rest) identifier := Table.get?_cons _ _ _ _
    have later := @ih (registry.registerKind kind.title kind).1
    refine later.trans ?_
    rw [registerKind, catalog_registerTitled, entries]
    cases registry.catalog.get? identifier with
    | some implementation => rfl
    | none => by_cases same : identifier = kind.title <;> simp [same]

theorem lookup_registerBuiltins (name : String) :
    registry.registerBuiltins.1.lookup name = (usual? name).or (registry.lookup name) := by
  rw [lookup, registerBuiltins, bindings_registerKinds, Table.get?_insertAll Kind.nodup_builtin]
  rfl

theorem catalog_registerBuiltins (identifier : String) :
    registry.registerBuiltins.1.catalog.get? identifier =
      (registry.catalog.get? identifier).or (usual? identifier) :=
  catalog_registerKinds Kind.builtin identifier

theorem defineBuiltins_eq :
    registry.defineBuiltins = { registry with
      catalog := Table.insertAll (Kind.entries Kind.builtin) registry.catalog } := by
  suffices ∀ (kinds : List Kind) (registry : Registry),
      kinds.foldl (fun registry kind =>
        registry.defineImplementation kind.title (.ofKind kind)) registry =
      { registry with catalog := Table.insertAll (Kind.entries kinds) registry.catalog } from
    this Kind.builtin registry
  intro kinds
  induction kinds with
  | nil => exact fun registry => rfl
  | cons kind rest ih =>
    intro registry
    rw [List.foldl_cons, ih]
    rfl

theorem catalog_defineBuiltins (identifier : String) :
    registry.defineBuiltins.catalog.get? identifier =
      (usual? identifier).or (registry.catalog.get? identifier) := by
  rw [defineBuiltins_eq, Table.get?_insertAll Kind.nodup_builtin]
  rfl

theorem catalog_empty (identifier : String) : empty.catalog.get? identifier = usual? identifier :=
  (catalog_defineBuiltins identifier).trans Option.or_none

theorem lookup_standard (name : String) : standard.lookup name = usual? name :=
  (lookup_registerBuiltins name).trans Option.or_none

theorem catalog_standard (identifier : String) :
    standard.catalog.get? identifier = usual? identifier := by
  refine (catalog_registerBuiltins identifier).trans ?_
  rw [catalog_empty, Option.or_self]

theorem catalog_defineImplementation (defined identifier : String)
    (implementation : Implementation) :
    (registry.defineImplementation defined implementation).catalog.get? identifier =
      if identifier = defined then some implementation else registry.catalog.get? identifier :=
  Table.get?_insert defined identifier implementation registry.catalog

/-! ## Aliases -/

/-- What names are to be bound to, going by the catalog. -/
def targets (registry : Registry) (aliases : List (String × String)) :
    List (String × Implementation) :=
  aliases.filterMap fun (name, identifier) =>
    (registry.catalog.get? identifier).map fun implementation => (name, implementation)

/-- Every identifier is in the catalog. -/
def KnowsAll (registry : Registry) (aliases : List (String × String)) : Prop :=
  ∀ name identifier, (name, identifier) ∈ aliases →
    registry.catalog.get? identifier ≠ none

theorem targets_cons {name identifier : String} {implementation : Implementation}
    (known : registry.catalog.get? identifier = some implementation)
    (rest : List (String × String)) :
    registry.targets ((name, identifier) :: rest) =
      (name, implementation) :: registry.targets rest := by
  simp only [targets, List.filterMap_cons, known, Option.map_some]

theorem KnowsAll.cons {name identifier : String} {rest : List (String × String)}
    (knows : registry.KnowsAll ((name, identifier) :: rest)) :
    (∃ implementation, registry.catalog.get? identifier = some implementation) ∧
      registry.KnowsAll rest :=
  ⟨Option.ne_none_iff_exists'.mp (knows name identifier List.mem_cons_self),
    fun other found member => knows other found (List.mem_cons_of_mem _ member)⟩

theorem keys_targets {aliases : List (String × String)} (knows : registry.KnowsAll aliases) :
    Table.keys (registry.targets aliases) = Table.keys aliases := by
  induction aliases with
  | nil => rfl
  | cons pair rest ih =>
    obtain ⟨name, identifier⟩ := pair
    obtain ⟨⟨implementation, known⟩, others⟩ := knows.cons
    rw [targets_cons known]
    exact congrArg (name :: ·) (ih others)

theorem get?_targets {aliases : List (String × String)} (knows : registry.KnowsAll aliases)
    (name : String) :
    Table.get? (registry.targets aliases) name =
      (Table.get? aliases name).bind registry.catalog.get? := by
  induction aliases with
  | nil => rfl
  | cons pair rest ih =>
    obtain ⟨first, identifier⟩ := pair
    obtain ⟨⟨implementation, known⟩, others⟩ := knows.cons
    rw [targets_cons known, Table.get?_cons, Table.get?_cons, ih others]
    by_cases same : name = first
    · simp [same, known]
    · simp [same]

/-- Each binding leaves the catalog as it was, so that the next identifier is still there. -/
theorem registerAll_of_knowsAll {aliases : List (String × String)}
    (knows : registry.KnowsAll aliases) :
    (registry.registerAll aliases).registry = { registry with
        bindings := Table.insertAll (registry.targets aliases) registry.bindings } ∧
      (registry.registerAll aliases).failure? = none := by
  induction aliases generalizing registry with
  | nil => exact ⟨rfl, rfl⟩
  | cons pair rest ih =>
    obtain ⟨name, identifier⟩ := pair
    obtain ⟨⟨implementation, known⟩, others⟩ := knows.cons
    obtain ⟨bound, passed⟩ := @register_of_known registry name _ _ known
    obtain ⟨left, failed⟩ := @ih (registry.bind name implementation).1 others
    simp only [registerAll, passed, bound, left, failed, targets_cons known,
      Table.insertAll_cons, and_true]
    rfl

theorem apply_eq_registerAll {config : Config} (knows : registry.KnowsAll config.aliases) :
    registry.apply config =
      let attempt := registry.registerAll config.aliases
      { attempt with events := attempt.events ++ [.applied config.aliases.length] } := by
  have noneMissing : (config.aliases.find? fun (_, identifier) =>
      !registry.hasImplementation identifier) = none := by
    refine List.find?_eq_none.mpr fun (name, identifier) member => ?_
    simpa [hasImplementation, Table.contains] using knows name identifier member
  simp only [apply, noneMissing, (registerAll_of_knowsAll knows).2]

theorem apply_of_knowsAll {config : Config} (knows : registry.KnowsAll config.aliases) :
    (registry.apply config).registry = { registry with
        bindings := Table.insertAll (registry.targets config.aliases) registry.bindings } ∧
      (registry.apply config).failure? = none := by
  rw [apply_eq_registerAll knows]
  exact registerAll_of_knowsAll knows

/-- The first alias whose identifier is missing ends the attempt before it has begun. -/
theorem apply_of_missing {config : Config} {before after : List (String × String)}
    {name identifier : String} (split : config.aliases = before ++ (name, identifier) :: after)
    (knows : registry.KnowsAll before) (missing : registry.catalog.get? identifier = none) :
    registry.apply config = ⟨registry, [], some (.unknownImplementation identifier)⟩ := by
  have first : (config.aliases.find? fun (_, identifier) =>
      !registry.hasImplementation identifier) = some (name, identifier) := by
    refine List.find?_eq_some_iff_append.mpr
      ⟨?_, before, after, split, fun (other, found) member => ?_⟩
    · simp [hasImplementation, Table.contains, missing]
    · have known := Option.isSome_iff_ne_none.mpr (knows other found member)
      simpa [hasImplementation, Table.contains] using known
  simp only [apply, first]

theorem knowsAll_or_missing (registry : Registry) (aliases : List (String × String)) :
    registry.KnowsAll aliases ∨ ∃ before name identifier after,
      aliases = before ++ (name, identifier) :: after ∧ registry.KnowsAll before ∧
        registry.catalog.get? identifier = none := by
  induction aliases with
  | nil => exact .inl nofun
  | cons pair rest ih =>
    obtain ⟨name, identifier⟩ := pair
    cases known : registry.catalog.get? identifier with
    | none => exact .inr ⟨[], name, identifier, rest, rfl, nofun, known⟩
    | some implementation =>
      have extended {aliases : List (String × String)} (knows : registry.KnowsAll aliases) :
          registry.KnowsAll ((name, identifier) :: aliases) := by
        intro other found member
        rcases List.mem_cons.mp member with same | later
        · obtain ⟨rfl, rfl⟩ := Prod.mk.inj same
          simp [known]
        · exact knows other found later
      rcases ih with knows | ⟨before, other, found, after, rfl, knows, missing⟩
      · exact .inl (extended knows)
      · exact .inr ⟨_ :: before, other, found, after, rfl, extended knows, missing⟩

theorem catalog_apply {config : Config} :
    (registry.apply config).registry.catalog = registry.catalog := by
  rcases registry.knowsAll_or_missing config.aliases with
    knows | ⟨before, name, identifier, after, split, knows, missing⟩
  · rw [(apply_of_knowsAll knows).1]
  · rw [apply_of_missing split knows missing]

/-! ## Changes -/

theorem after_register (name identifier : String) :
    registry.after (.register name identifier) = (registry.register name identifier).registry := rfl

theorem after_registerTitled (name title : String) (implementation : Implementation) :
    registry.after (.registerTitled name title implementation) =
      (registry.registerTitled name title implementation).1 := rfl

theorem after_registerKind (name : String) (kind : Kind) :
    registry.after (.registerKind name kind) =
      (registry.registerTitled name kind.title (.ofKind kind)).1 := rfl

theorem after_registerFactory (name : String) (implementation : Implementation) :
    registry.after (.registerFactory name implementation) =
      (registry.bind name implementation).1 := rfl

theorem after_defineImplementation (identifier : String) (implementation : Implementation) :
    registry.after (.defineImplementation identifier implementation) =
      registry.defineImplementation identifier implementation := rfl

theorem after_registerBuiltins : registry.after .registerBuiltins = registry.registerBuiltins.1 :=
  rfl

theorem after_defineBuiltins : registry.after .defineBuiltins = registry.defineBuiltins := rfl

theorem after_apply (config : Config) :
    registry.after (.apply config) = (registry.apply config).registry := rfl

/-! ## What every change keeps -/

section
variable {holds : Registry → Prop}
  (bind : ∀ {registry : Registry}, holds registry →
    ∀ name implementation, holds (registry.bind name implementation).1)
  (define : ∀ {registry : Registry}, holds registry →
    ∀ identifier implementation, holds (registry.defineImplementation identifier implementation))
include bind

theorem holds_register (start : holds registry) (name identifier : String) :
    holds (registry.register name identifier).registry := by
  unfold register
  split
  · exact bind start name _
  · exact start

theorem holds_registerAll (start : holds registry) (aliases : List (String × String)) :
    holds (registry.registerAll aliases).registry := by
  induction aliases generalizing registry with
  | nil => exact start
  | cons pair rest ih =>
    have first := holds_register bind start pair.1 pair.2
    unfold registerAll
    simp only
    split
    · exact first
    · exact ih first

theorem holds_apply (start : holds registry) (config : Config) :
    holds (registry.apply config).registry := by
  have bound := holds_registerAll bind start config.aliases
  unfold apply
  split
  · exact start
  · simp only
    split <;> exact bound

include define

theorem holds_registerTitled (start : holds registry) (name title : String)
    (implementation : Implementation) :
    holds (registry.registerTitled name title implementation).1 :=
  bind (define start title _) name implementation

theorem holds_registerKinds (start : holds registry) (kinds : List Kind) :
    holds (registry.registerKinds kinds).1 := by
  induction kinds generalizing registry with
  | nil => exact start
  | cons kind rest ih => exact ih (holds_registerTitled bind define start _ _ _)

omit bind in
theorem holds_defineBuiltins (start : holds registry) : holds registry.defineBuiltins := by
  suffices ∀ (kinds : List Kind) (registry : Registry), holds registry →
      holds (kinds.foldl (fun registry kind =>
        registry.defineImplementation kind.title (.ofKind kind)) registry) from
    this Kind.builtin registry start
  intro kinds
  induction kinds with
  | nil => exact fun _ start => start
  | cons kind rest ih => exact fun _ start => ih _ (define start _ _)

/-- Every change consists of bindings and definitions, from where it is or from nothing. -/
theorem holds_after (nothing : holds ⟨[], []⟩) (start : holds registry) (change : Change) :
    holds (registry.after change) := by
  cases change with
  | register name identifier => exact holds_register bind start name identifier
  | registerTitled name title implementation =>
    exact holds_registerTitled bind define start name title implementation
  | registerKind name kind => exact holds_registerTitled bind define start name _ _
  | registerFactory name implementation => exact bind start name implementation
  | defineImplementation identifier implementation => exact define start identifier implementation
  | registerBuiltins => exact holds_registerKinds bind define start _
  | defineBuiltins => exact holds_defineBuiltins define start
  | apply config => exact holds_apply bind start config
  | reset => exact holds_registerKinds bind define (holds_defineBuiltins define nothing) _

end

namespace InOrder

theorem bind (order : registry.InOrder) (name : String) (implementation : Implementation) :
    (registry.bind name implementation).1.InOrder :=
  ⟨Table.ascending_insert order.bindings name implementation, order.catalog⟩

theorem defineImplementation (order : registry.InOrder) (identifier : String)
    (implementation : Implementation) :
    (registry.defineImplementation identifier implementation).InOrder :=
  ⟨order.bindings, Table.ascending_insert order.catalog identifier implementation⟩

theorem nothing : InOrder ⟨[], []⟩ := ⟨.nil, .nil⟩

theorem empty : InOrder .empty := holds_defineBuiltins defineImplementation nothing

theorem standard : InOrder .standard := holds_registerKinds bind defineImplementation empty _

theorem after (order : registry.InOrder) (change : Change) : (registry.after change).InOrder :=
  holds_after bind defineImplementation nothing order change

end InOrder

end Registry
end MatchTree
