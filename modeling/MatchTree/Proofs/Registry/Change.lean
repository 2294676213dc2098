import MatchTree.Proofs.Resolution.Kinds
import MatchTree.Proofs.Table
import MatchTree.Registry.Change

/-!
Changes of a registry bring in no implementations but those they carry and the usual ones.
-/

set_option autoImplicit false
namespace MatchTree

/-- Names and identifiers stand for one of some kinds. -/
structure Registry.Within (kinds : List Kind) (registry : Registry) : Prop where
  binds : registry.Binds kinds
  catalog : ∀ identifier implementation, registry.catalog.get? identifier = some implementation →
    implementation.BuildsOneOf kinds

/-- A change carries no implementation but of one of some kinds. -/
def Change.Within (kinds : List Kind) : Change → Prop
  | registerKind _ kind => kind ∈ kinds
  | registerTitled _ _ implementation | registerFactory _ implementation
  | defineImplementation _ implementation => implementation.BuildsOneOf kinds
  | _ => True

variable {kinds : List Kind}

theorem Implementation.ofKind_builds {kind : Kind} (member : kind ∈ kinds) :
    (ofKind kind).BuildsOneOf kinds := ⟨kind, member, rfl⟩

namespace Registry
variable {registry : Registry}

theorem Within.bind (within : registry.Within kinds) (name : String)
    {implementation : Implementation} (builds : implementation.BuildsOneOf kinds) :
    (registry.bind name implementation).1.Within kinds := by
  refine ⟨fun other found bound => ?_, within.catalog⟩
  have bound : (registry.bindings.insert name implementation).get? other = some found := bound
  rw [Table.get?_insert] at bound
  split at bound
  · exact Option.some.inj bound ▸ builds
  · exact within.binds other found bound

theorem Within.defineImplementation (within : registry.Within kinds) (identifier : String)
    {implementation : Implementation} (builds : implementation.BuildsOneOf kinds) :
    (registry.defineImplementation identifier implementation).Within kinds := by
  refine ⟨within.binds, fun other found known => ?_⟩
  have known : (registry.catalog.insert identifier implementation).get? other = some found := known
  rw [Table.get?_insert] at known
  split at known
  · exact Option.some.inj known ▸ builds
  · exact within.catalog other found known

theorem Within.register (within : registry.Within kinds) (name identifier : String) :
    (registry.register name identifier).registry.Within kinds := by
  unfold Registry.register
  split
  · rename_i implementation known
    exact within.bind name (within.catalog identifier implementation known)
  · exact within

/-- The entry that binding an implementation brings along was there before or is the same. -/
theorem Within.registerTitled (within : registry.Within kinds) (name title : String)
    {implementation : Implementation} (builds : implementation.BuildsOneOf kinds) :
    (registry.registerTitled name title implementation).1.Within kinds := by
  have entry : ((registry.catalog.get? title).getD implementation).BuildsOneOf kinds := by
    cases known : registry.catalog.get? title with
    | none => exact builds
    | some found => exact within.catalog title found known
  exact (within.defineImplementation title entry).bind name builds

theorem Within.registerKind (within : registry.Within kinds) (name : String) {kind : Kind}
    (member : kind ∈ kinds) : (registry.registerKind name kind).1.Within kinds :=
  within.registerTitled name kind.title (Implementation.ofKind_builds member)

theorem Within.registerKinds {more : List Kind} (subset : more ⊆ kinds)
    (within : registry.Within kinds) : (registry.registerKinds more).1.Within kinds := by
  induction more generalizing registry with
  | nil => exact within
  | cons kind rest ih =>
    obtain ⟨here, there⟩ := List.cons_subset.mp subset
    exact ih there (within.registerKind kind.title here)

theorem Within.defineBuiltins (usual : Kind.builtin ⊆ kinds) (within : registry.Within kinds) :
    registry.defineBuiltins.Within kinds := by
  suffices ∀ (more : List Kind) (registry : Registry), more ⊆ kinds → registry.Within kinds →
      (more.foldl (fun registry kind =>
        registry.defineImplementation kind.title (.ofKind kind)) registry).Within kinds from
    this Kind.builtin registry usual within
  intro more
  induction more with
  | nil => exact fun _ _ within => within
  | cons kind rest ih =>
    intro registry subset within
    obtain ⟨here, there⟩ := List.cons_subset.mp subset
    exact ih _ there (within.defineImplementation kind.title (Implementation.ofKind_builds here))

theorem Within.empty (usual : Kind.builtin ⊆ kinds) : Registry.empty.Within kinds :=
  Within.defineBuiltins usual ⟨nofun, nofun⟩

theorem Within.standard (usual : Kind.builtin ⊆ kinds) : Registry.standard.Within kinds :=
  (Within.empty usual).registerKinds usual

theorem Within.registerAll (within : registry.Within kinds) (aliases : List (String × String)) :
    (registry.registerAll aliases).registry.Within kinds := by
  induction aliases generalizing registry with
  | nil => exact within
  | cons pair rest ih =>
    obtain ⟨name, identifier⟩ := pair
    have first := within.register name identifier
    unfold Registry.registerAll
    simp only
    split
    · exact first
    · exact ih first

theorem Within.apply (within : registry.Within kinds) (config : Config) :
    (registry.apply config).registry.Within kinds := by
  have bound := within.registerAll config.aliases
  unfold Registry.apply
  split
  · exact within
  · simp only
    split <;> exact bound

theorem Within.after (usual : Kind.builtin ⊆ kinds) (within : registry.Within kinds)
    {change : Change} (carried : change.Within kinds) : (registry.after change).Within kinds := by
  cases change with
  | register name identifier => exact within.register name identifier
  | registerTitled name title implementation => exact within.registerTitled name title carried
  | registerKind name kind => exact within.registerKind name carried
  | registerFactory name implementation => exact within.bind name carried
  | defineImplementation identifier implementation =>
    exact within.defineImplementation identifier carried
  | registerBuiltins => exact within.registerKinds usual
  | defineBuiltins => exact within.defineBuiltins usual
  | apply config => exact within.apply config
  -- nothing of the registry before it is left
  | reset => exact Within.standard usual

/-- The standard registry with one more kind binds nothing but kinds. -/
theorem familiar_registerKind_standard (name : String) (kind : Kind) :
    (standard.registerKind name kind).1.Familiar := by
  have usual : standard.Within (kind :: Kind.builtin) :=
    Within.standard (List.subset_cons_self kind Kind.builtin)
  exact (usual.registerKind name List.mem_cons_self).binds.familiar

end Registry
end MatchTree
