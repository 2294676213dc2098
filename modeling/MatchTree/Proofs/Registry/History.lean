import MatchTree.Proofs.Registry.Tables
import MatchTree.Proofs.Text.Bytes

/-!
Registries told from the changes made to them.

A history lists changes, the latest first. What a name stands for and what the catalog holds
for an identifier can be read off it, one name or identifier at a time and without any table:
the last binding of a name counts, and for an identifier its last definition, or else what
was offered first. A binding through the catalog takes what the catalog held back then.
-/

set_option autoImplicit false
namespace MatchTree

/-- Where registries begin. -/
inductive Start
  | standard
  | empty

namespace Start

def registry : Start → Registry
  | standard => .standard
  | empty => .empty

/-- What a name stands for before any change. -/
def binding? (name : String) : Start → Option Implementation
  | standard => usual? name
  | empty => none

end Start

/-- The registry after several changes, each of which may fail. -/
def Registry.afterAll (registry : Registry) (changes : List Change) : Registry :=
  changes.foldl Registry.after registry

namespace Change

def isReset : Change → Bool
  | reset => true
  | _ => false

/-- What an identifier is defined as. -/
def defines? (identifier : String) : Change → Option Implementation
  | defineImplementation found implementation =>
    if found = identifier then some implementation else none
  | defineBuiltins => usual? identifier
  | _ => none

/-- What the catalog is offered for an identifier, to be taken if it has no entry. -/
def offers? (identifier : String) : Change → Option Implementation
  | registerTitled _ title implementation =>
    if title = identifier then some implementation else none
  | registerKind _ kind => if kind.title = identifier then some (.ofKind kind) else none
  | registerBuiltins => usual? identifier
  | _ => none

/-- What a name is bound to, by a change that finds this catalog and succeeds. -/
def binds? (catalog : String → Option Implementation) (name : String) :
    Change → Option Implementation
  | register bound identifier => if bound = name then catalog identifier else none
  | registerTitled bound _ implementation | registerFactory bound implementation =>
    if bound = name then some implementation else none
  | registerKind bound kind => if bound = name then some (.ofKind kind) else none
  | registerBuiltins => usual? name
  | apply config =>
    if config.aliases.all fun (_, identifier) => (catalog identifier).isSome then
      (config.aliases.get? name).bind catalog
    else none
  | _ => none

end Change

namespace Registry
variable {registry : Registry}

theorem knowsAll_iff {aliases : List (String × String)} :
    (aliases.all fun (_, identifier) => (registry.catalog.get? identifier).isSome) = true ↔
      registry.KnowsAll aliases := by
  simp only [List.all_eq_true, Option.isSome_iff_ne_none, KnowsAll, Prod.forall]

theorem lookup_register (bound identifier name : String) :
    (registry.register bound identifier).registry.lookup name =
      ((if bound = name then registry.catalog.get? identifier else none).or
        (registry.lookup name)) := by
  cases known : registry.catalog.get? identifier with
  | none => simp [register_of_unknown known]
  | some implementation =>
    rw [(register_of_known known).1, lookup_bind]
    by_cases same : bound = name
    · simp [same]
    · simp [same, Ne.symm same]

theorem lookup_apply (config : Config) (name : String) :
    (registry.apply config).registry.lookup name =
      ((if config.aliases.all fun (_, identifier) => (registry.catalog.get? identifier).isSome then
          (config.aliases.get? name).bind registry.catalog.get?
        else none).or (registry.lookup name)) := by
  rcases registry.knowsAll_or_missing config.aliases with
    knows | ⟨before, found, identifier, after, split, knows, missing⟩
  · have distinct : (Table.keys (registry.targets config.aliases)).Nodup := by
      rw [keys_targets knows]
      exact config.ascending.nodup_keys
    rw [(apply_of_knowsAll knows).1, if_pos (knowsAll_iff.mpr knows)]
    refine (Table.get?_insertAll distinct _ name).trans ?_
    rw [get?_targets knows]
    rfl
  · -- one identifier is missing, and nothing is bound
    rw [apply_of_missing split knows missing, if_neg, Option.none_or]
    intro knowsAll
    exact knowsAll_iff.mp knowsAll found identifier (by simp [split]) missing

/-- Unless it is reset, a registry changes in what it binds and in nothing else. -/
theorem lookup_after {change : Change} (goesOn : change.isReset = false) (name : String) :
    (registry.after change).lookup name =
      (change.binds? registry.catalog.get? name).or (registry.lookup name) := by
  have binding (bound : String) (implementation : Implementation) :
      (if name = bound then some implementation else registry.lookup name) =
        ((if bound = name then some implementation else none).or (registry.lookup name)) := by
    by_cases same : bound = name
    · simp [same]
    · simp [same, Ne.symm same]
  cases change with
  | register bound identifier =>
    rw [after_register, lookup_register]
    rfl
  | registerTitled bound title implementation =>
    rw [after_registerTitled, lookup_registerTitled, binding]
    rfl
  | registerKind bound kind =>
    rw [after_registerKind, lookup_registerTitled, binding]
    rfl
  | registerFactory bound implementation =>
    rw [after_registerFactory, lookup_bind, binding]
    rfl
  | defineImplementation identifier implementation => rfl
  | registerBuiltins =>
    rw [after_registerBuiltins, lookup_registerBuiltins]
    rfl
  | defineBuiltins =>
    rw [after_defineBuiltins, defineBuiltins_eq]
    rfl
  | apply config =>
    rw [after_apply, lookup_apply]
    rfl
  | reset => contradiction

/-- A definition replaces the entry of its identifier, and an offer does not. -/
theorem catalog_after {change : Change} (goesOn : change.isReset = false) (identifier : String) :
    (registry.after change).catalog.get? identifier =
      ((change.defines? identifier).or (registry.catalog.get? identifier)).or
        (change.offers? identifier) := by
  have offering (title : String) (implementation : Implementation) :
      (if identifier = title then some implementation else none) =
        if title = identifier then some implementation else none := by
    simp only [eq_comm]
  cases change with
  | register bound found =>
    rw [after_register, catalog_register]
    exact Option.or_none.symm
  | registerTitled bound title implementation =>
    rw [after_registerTitled, catalog_registerTitled, offering]
    rfl
  | registerKind bound kind =>
    rw [after_registerKind, catalog_registerTitled, offering]
    rfl
  | registerFactory bound implementation => exact Option.or_none.symm
  | defineImplementation found implementation =>
    rw [after_defineImplementation, catalog_defineImplementation]
    by_cases same : found = identifier
    · simp [same, Change.defines?, Change.offers?]
    · simp [same, Ne.symm same, Change.defines?, Change.offers?]
  | registerBuiltins =>
    rw [after_registerBuiltins, catalog_registerBuiltins]
    rfl
  | defineBuiltins =>
    rw [after_defineBuiltins, catalog_defineBuiltins]
    exact Option.or_none.symm
  | apply config =>
    rw [after_apply, catalog_apply]
    exact Option.or_none.symm
  | reset => contradiction

end Registry

/-- Changes that were made, the latest first. -/
abbrev History := List Change

namespace History

/-- The changes since the last reset. -/
def recent (history : History) : History := history.takeWhile fun change => !change.isReset

/-- The catalog entry of an identifier. -/
def cataloged (history : History) (identifier : String) : Option Implementation :=
  history.recent.findSome? (Change.defines? identifier) <|> usual? identifier <|>
    history.recent.reverse.findSome? (Change.offers? identifier)

/-- What a name stands for: what it was bound to last, or what it stood for at first. -/
def bound (start : Start) (name : String) : History → Option Implementation
  | [] => start.binding? name
  | .reset :: _ => usual? name
  | change :: earlier => change.binds? (cataloged earlier) name <|> bound start name earlier

/-- A registry holds what a history says, both tables in order. -/
structure Tells (start : Start) (history : History) (registry : Registry) : Prop where
  bound : ∀ name, registry.lookup name = history.bound start name
  cataloged : ∀ identifier, registry.catalog.get? identifier = history.cataloged identifier
  order : registry.InOrder

variable {start : Start} {history : History} {registry : Registry}

theorem cataloged_cons {change : Change} (goesOn : change.isReset = false) (identifier : String) :
    cataloged (change :: history) identifier =
      ((change.defines? identifier).or (history.cataloged identifier)).or
        (change.offers? identifier) := by
  have recent_cons : recent (change :: history) = change :: history.recent := by
    simp [recent, goesOn]
  -- the latest change comes first among the definitions and last among the offers
  simp only [cataloged, recent_cons, List.findSome?_cons, List.reverse_cons,
    List.findSome?_append, List.findSome?_nil]
  cases change.defines? identifier <;> cases change.offers? identifier <;> simp

theorem bound_cons {change : Change} (goesOn : change.isReset = false) (name : String) :
    bound start name (change :: history) =
      (change.binds? history.cataloged name).or (history.bound start name) := by
  cases change with
  | reset => contradiction
  | _ => simp [bound]

/-- The usual identifiers stay in the catalog. -/
theorem usual_cataloged {kind : Kind} (member : kind ∈ Kind.builtin) :
    ∃ implementation, history.cataloged kind.title = some implementation := by
  rw [cataloged, usual?_title member]
  cases history.recent.findSome? (Change.defines? kind.title) <;> simp

theorem tells_start (start : Start) : Tells start [] start.registry := by
  cases start with
  | standard =>
    refine ⟨Registry.lookup_standard, fun identifier => ?_, Registry.InOrder.standard⟩
    simp [Start.registry, Registry.catalog_standard, History.cataloged, recent]
  | empty =>
    refine ⟨fun name => rfl, fun identifier => ?_, Registry.InOrder.empty⟩
    simp [Start.registry, Registry.catalog_empty, History.cataloged, recent]

/-- One more change. -/
theorem Tells.after (tells : Tells start history registry) (change : Change) :
    Tells start (change :: history) (registry.after change) := by
  cases goesOn : change.isReset with
  | true =>
    cases change with
    | reset =>
      have fresh := tells_start .standard
      refine ⟨fresh.bound, fun identifier => ?_, fresh.order⟩
      refine (fresh.cataloged identifier).trans ?_
      simp [History.cataloged, recent, Change.isReset]
    | _ => contradiction
  | false =>
    -- what the change finds in the catalog is what the history says it finds
    have catalog : registry.catalog.get? = history.cataloged := funext tells.cataloged
    refine ⟨fun name => ?_, fun identifier => ?_, tells.order.after change⟩
    · rw [Registry.lookup_after goesOn, catalog, tells.bound, bound_cons goesOn]
    · rw [Registry.catalog_after goesOn, catalog, cataloged_cons goesOn]

theorem Tells.afterAll (tells : Tells start history registry) (changes : List Change) :
    Tells start (changes.reverse ++ history) (registry.afterAll changes) := by
  induction changes generalizing history registry with
  | nil => exact tells
  | cons change rest ih =>
    rw [List.reverse_cons, List.append_assoc]
    exact ih (tells.after change)

end History

namespace Registry

/-- The tables after any changes, told from the changes alone. -/
theorem afterAll_tells (start : Start) (changes : List Change) :
    let registry := start.registry.afterAll changes
    let history : History := changes.reverse
    (∀ name, registry.lookup name = history.bound start name) ∧
      (∀ identifier, registry.catalog.get? identifier = history.cataloged identifier) ∧
      (Kind.builtin.all fun kind => registry.hasImplementation kind.title) = true ∧
      (registry.names.Pairwise fun first second => Text.bytes first < Text.bytes second) ∧
      (∀ name, name ∈ registry.names ↔ registry.contains name = true) ∧
      registry.names.length = registry.size := by
  intro registry history
  have tells : History.Tells start history registry := by
    simpa using (History.tells_start start).afterAll changes
  refine ⟨tells.bound, tells.cataloged, List.all_eq_true.mpr fun kind member => ?_, ?_,
    fun name => ?_, ?_⟩
  · obtain ⟨implementation, found⟩ := @History.usual_cataloged history kind member
    rw [hasImplementation, Table.contains, tells.cataloged, found]
    rfl
  · exact tells.order.bindings.keys.imp Text.bytes_lt_iff.mpr
  · exact Table.contains_iff.symm
  · exact List.length_map _

end Registry
end MatchTree
