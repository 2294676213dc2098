import MatchTree.Proofs.Registry.History

/-!
What a registry announces, as an account of what it binds.

Each binding is announced by an event of its own, and right after it comes the warning if its
name was bound before. Of several bindings with distinct names each finds its name as the first
of them found it.
-/

set_option autoImplicit false
namespace MatchTree

/-- What stands in two lists put together stands in the one or in the other. -/
theorem append_eq_append_cons {α : Type} {first second front back : List α} {x : α}
    (same : first ++ second = front ++ x :: back) :
    (∃ later, first = front ++ x :: later ∧ back = later ++ second) ∨
      ∃ earlier, front = first ++ earlier ∧ second = earlier ++ x :: back := by
  rcases List.append_eq_append_iff.mp same with ⟨earlier, split, rest⟩ | ⟨more, split, rest⟩
  · exact .inr ⟨earlier, split, rest⟩
  · rcases List.cons_eq_append_iff.mp rest with ⟨rfl, rest⟩ | ⟨later, rfl, rest⟩
    · exact .inr ⟨[], by simpa using split.symm, rest.symm⟩
    · exact .inl ⟨later, split, (List.cons.inj rest).2⟩

namespace Event

/-- The name that is bound. -/
def bound? : Event → Option String
  | registering name _ | registeringKind name _ | registeringFactory name _ => some name
  | _ => none

def isBinding (event : Event) : Bool := event.bound?.isSome

def isOverwriting : Event → Bool
  | overwritten _ _ => true
  | _ => false

end Event

/-- A name that is bound through the catalog, with a title of its own, or to a bare
implementation. -/
inductive Binding
  | cataloged (name identifier : String) (implementation : Implementation)
  | titled (name title : String) (implementation : Implementation)
  | factory (name : String) (implementation : Implementation)

namespace Registry

/-- The warning that a name is bound already. -/
def overwriting (registry : Registry) (name : String) : List Event :=
  ((registry.lookup name).map fun previous => .overwritten name previous.typeName).toList

theorem countP_overwriting (registry : Registry) (name : String) :
    (registry.overwriting name).countP Event.isBinding = 0 ∧
      (registry.overwriting name).countP Event.isOverwriting =
        if registry.contains name then 1 else 0 := by
  rw [overwriting, contains, Table.contains, ← lookup]
  cases registry.lookup name <;> exact ⟨rfl, rfl⟩

end Registry

namespace Binding

def name : Binding → String
  | cataloged name _ _ | titled name _ _ | factory name _ => name

def implementation : Binding → Implementation
  | cataloged _ _ implementation | titled _ _ implementation | factory _ implementation =>
    implementation

def entry (binding : Binding) : String × Implementation := (binding.name, binding.implementation)

def event : Binding → Event
  | cataloged name identifier _ => .registering name identifier
  | titled name title _ => .registeringKind name title
  | factory name implementation => .registeringFactory name implementation.typeName

/-- The warning that a title stands for another type in the catalog. -/
def remarks (registry : Registry) : Binding → List Event
  | titled _ title implementation =>
    match registry.catalog.get? title with
    | some entry =>
      if entry.typeName = implementation.typeName then []
      else [.alreadyCataloged title entry.typeName implementation.typeName]
    | none => []
  | _ => []

/-- All that is announced of one binding. -/
def events (registry : Registry) (binding : Binding) : List Event :=
  binding.remarks registry ++ binding.event :: registry.overwriting binding.name

/-- A kind under its own name. -/
def ofKind (kind : Kind) : Binding := titled kind.title kind.title (.ofKind kind)

variable {registry : Registry} {binding : Binding}

theorem bound?_event (binding : Binding) : binding.event.bound? = some binding.name := by
  cases binding <;> rfl

theorem isOverwriting_event (binding : Binding) : binding.event.isOverwriting = false := by
  cases binding <;> rfl

theorem mem_remarks_iff {remark : Event} :
    remark ∈ binding.remarks registry ↔ ∃ name title implementation entry,
      binding = titled name title implementation ∧ registry.catalog.get? title = some entry ∧
        entry.typeName ≠ implementation.typeName ∧
        remark = .alreadyCataloged title entry.typeName implementation.typeName := by
  constructor
  · intro member
    cases binding with
    | titled name title implementation =>
      rw [remarks] at member
      split at member
      · rename_i entry known
        split at member
        · contradiction
        · rename_i other
          exact ⟨name, title, implementation, entry, rfl, known, other,
            List.mem_singleton.mp member⟩
      · contradiction
    | _ => contradiction
  · rintro ⟨name, title, implementation, entry, rfl, known, other, rfl⟩
    simp [remarks, known, other]

/-- Only its own event tells of a binding, and only the warning of what was there before. -/
theorem countP_events (registry : Registry) (binding : Binding) :
    (binding.events registry).countP Event.isBinding = 1 ∧
      (binding.events registry).countP Event.isOverwriting =
        if registry.contains binding.name then 1 else 0 := by
  have remarked : ∀ remark ∈ binding.remarks registry,
      ¬ remark.isBinding = true ∧ ¬ remark.isOverwriting = true := by
    intro remark member
    obtain ⟨_, _, _, _, _, _, _, rfl⟩ := mem_remarks_iff.mp member
    exact ⟨Bool.false_ne_true, Bool.false_ne_true⟩
  have binds : binding.event.isBinding = true := by rw [Event.isBinding, bound?_event]; rfl
  have overwrites : ¬ binding.event.isOverwriting = true := by simp [isOverwriting_event]
  obtain ⟨noBinding, warned⟩ := registry.countP_overwriting binding.name
  constructor
  · rw [events, List.countP_append, List.countP_cons_of_pos binds, noBinding,
      List.countP_eq_zero.mpr fun remark member => (remarked remark member).1]
  · rw [events, List.countP_append, List.countP_cons_of_neg overwrites, warned,
      List.countP_eq_zero.mpr fun remark member => (remarked remark member).2, Nat.zero_add]

/-- Right before the warning stands the event of the binding that it is about. -/
theorem events_split {front back : List Event} {name previous : String}
    (split : binding.events registry = front ++ .overwritten name previous :: back) :
    binding.name = name ∧ (∃ earlier, front = earlier ++ [binding.event]) ∧
      ∃ implementation, registry.lookup name = some implementation ∧
        implementation.typeName = previous := by
  rcases append_eq_append_cons split with ⟨later, remarked, _⟩ | ⟨earlier, rfl, announced⟩
  · have member : Event.overwritten name previous ∈ binding.remarks registry := by simp [remarked]
    obtain ⟨_, _, _, _, _, _, _, other⟩ := mem_remarks_iff.mp member
    contradiction
  · rcases List.cons_eq_append_iff.mp announced with ⟨rfl, here⟩ | ⟨before, rfl, warned⟩
    · -- the event of a binding is no warning
      have told := congrArg Event.isOverwriting (List.cons.inj here).1
      rw [isOverwriting_event] at told
      contradiction
    · rw [Registry.overwriting] at warned
      cases bound : registry.lookup binding.name with
      | none => simp [bound] at warned
      | some implementation =>
        rw [bound, Option.map_some, Option.toList_some, List.singleton_eq_append_iff] at warned
        rcases warned with ⟨rfl, same⟩ | ⟨_, impossible⟩
        · obtain ⟨rfl, rfl⟩ := Event.overwritten.inj (List.cons.inj same).1
          exact ⟨rfl, ⟨_, rfl⟩, implementation, bound, rfl⟩
        · contradiction

end Binding

namespace Registry
variable {registry : Registry} {bindings : List Binding}

/-- What is announced of several bindings, if no name is bound twice. -/
def account (registry : Registry) (bindings : List Binding) : List Event :=
  bindings.flatMap (Binding.events registry)

theorem account_cons (binding : Binding) (rest : List Binding) :
    registry.account (binding :: rest) = binding.events registry ++ registry.account rest :=
  List.flatMap_cons

theorem countP_account (registry : Registry) (bindings : List Binding) :
    (registry.account bindings).countP Event.isBinding = bindings.length ∧
      (registry.account bindings).countP Event.isOverwriting =
        ((bindings.map Binding.name).filter registry.contains).length := by
  induction bindings with
  | nil => exact ⟨rfl, rfl⟩
  | cons binding rest ih =>
    obtain ⟨bound, overwritten⟩ := binding.countP_events registry
    rw [account_cons, List.countP_append, List.countP_append, ih.1, ih.2, bound, overwritten,
      List.map_cons, List.filter_cons]
    cases registry.contains binding.name <;> simp [Nat.add_comm]

theorem account_split {closing front back : List Event} {name previous : String}
    (quiet : ∀ event ∈ closing, event.isOverwriting = false)
    (split : registry.account bindings ++ closing = front ++ .overwritten name previous :: back) :
    (∃ earlier event, front = earlier ++ [event] ∧ event.bound? = some name) ∧
      ∃ implementation, registry.lookup name = some implementation ∧
        implementation.typeName = previous := by
  induction bindings generalizing front with
  | nil =>
    have told := quiet (.overwritten name previous) (by simp [show closing = _ from split])
    contradiction
  | cons binding rest ih =>
    rw [account_cons, List.append_assoc] at split
    rcases append_eq_append_cons split with ⟨later, here, _⟩ | ⟨earlier, rfl, there⟩
    · obtain ⟨rfl, ⟨earlier, rfl⟩, found⟩ := Binding.events_split here
      exact ⟨⟨earlier, binding.event, rfl, binding.bound?_event⟩, found⟩
    · obtain ⟨⟨before, event, rfl, bound⟩, found⟩ := ih there
      exact ⟨⟨_, event, (List.append_assoc _ _ _).symm, bound⟩, found⟩

/-- The bindings of aliases that the catalog knows. -/
def aliasBindings (registry : Registry) (aliases : List (String × String)) : List Binding :=
  aliases.filterMap fun (name, identifier) =>
    (registry.catalog.get? identifier).map (.cataloged name identifier)

variable {next : Registry}

theorem account_congr
    (same : ∀ binding ∈ bindings, next.lookup binding.name = registry.lookup binding.name ∧
      binding.remarks next = binding.remarks registry) :
    next.account bindings = registry.account bindings := by
  refine congrArg List.flatten (List.map_congr_left fun binding member => ?_)
  obtain ⟨lookup, remarks⟩ := same binding member
  rw [Binding.events, Binding.events, overwriting, overwriting, lookup, remarks]

theorem events_bind (name : String) (implementation : Implementation) :
    (registry.bind name implementation).2 = registry.overwriting name := by
  rw [bind, overwriting]
  cases registry.lookup name <;> rfl

theorem events_registerTitled (name title : String) (implementation : Implementation) :
    (registry.registerTitled name title implementation).2 =
      registry.account [.titled name title implementation] := by
  let entry := (registry.catalog.get? title).getD implementation
  let next := { registry with catalog := registry.catalog.insert title entry }
  have remarks : (if entry.typeName = implementation.typeName then []
      else [.alreadyCataloged title entry.typeName implementation.typeName]) =
      (Binding.titled name title implementation).remarks registry := by
    simp only [Binding.remarks, entry]
    cases registry.catalog.get? title with
    | none => exact if_pos rfl
    | some entry => rfl
  -- the catalog does not tell what the name stands for
  have warned : (next.bind name implementation).2 = registry.overwriting name := events_bind _ _
  calc (registry.registerTitled name title implementation).2
      = (if entry.typeName = implementation.typeName then []
          else [.alreadyCataloged title entry.typeName implementation.typeName]) ++
          .registeringKind name title :: (next.bind name implementation).2 := rfl
    _ = (Binding.titled name title implementation).events registry := by rw [remarks, warned]; rfl
    _ = registry.account [.titled name title implementation] := (List.append_nil _).symm

theorem events_registerKinds {kinds : List Kind} (distinct : (kinds.map Kind.title).Nodup) :
    (registry.registerKinds kinds).2 = registry.account (kinds.map .ofKind) := by
  induction kinds generalizing registry with
  | nil => rfl
  | cons kind rest ih =>
    obtain ⟨absent, others⟩ := List.nodup_cons.mp distinct
    let next := (registry.registerKind kind.title kind).1
    have here : (registry.registerKind kind.title kind).2 = (Binding.ofKind kind).events registry :=
      (events_registerTitled _ _ _).trans (List.append_nil _)
    have there : next.account (rest.map .ofKind) = registry.account (rest.map .ofKind) := by
      refine account_congr fun binding member => ?_
      obtain ⟨other, inside, rfl⟩ := List.mem_map.mp member
      have ne : other.title ≠ kind.title :=
        fun same => absent (List.mem_map.mpr ⟨other, inside, same⟩)
      -- another name, and another title in the catalog
      have lookup : next.lookup other.title = registry.lookup other.title :=
        (lookup_registerTitled _ _ _ _).trans (if_neg ne)
      have cataloged : next.catalog.get? other.title = registry.catalog.get? other.title := by
        refine (catalog_registerTitled _ _ _ _).trans ?_
        rw [if_neg ne, Option.or_none]
      refine ⟨lookup, ?_⟩
      simp only [Binding.ofKind, Binding.remarks, cataloged]
    rw [List.map_cons, account_cons, ← here, ← there, ← ih others]
    rfl

theorem register_of_cataloged {name identifier : String} {implementation : Implementation}
    (known : registry.catalog.get? identifier = some implementation) :
    registry.register name identifier = ⟨(registry.bind name implementation).1,
      (Binding.cataloged name identifier implementation).events registry, none⟩ := by
  have announced : (Binding.cataloged name identifier implementation).events registry =
      .registering name identifier :: (registry.bind name implementation).2 :=
    congrArg (List.cons _) (events_bind name implementation).symm
  simp only [register, known, announced]

theorem aliasBindings_cons {name identifier : String} {implementation : Implementation}
    (known : registry.catalog.get? identifier = some implementation)
    (rest : List (String × String)) :
    registry.aliasBindings ((name, identifier) :: rest) =
      .cataloged name identifier implementation :: registry.aliasBindings rest := by
  simp only [aliasBindings, List.filterMap_cons, known, Option.map_some]

theorem entries_aliasBindings (aliases : List (String × String)) :
    (registry.aliasBindings aliases).map Binding.entry = registry.targets aliases := by
  rw [aliasBindings, List.map_filterMap, targets]
  simp only [Option.map_map]
  rfl

theorem names_entries (bindings : List Binding) :
    Table.keys (bindings.map Binding.entry) = bindings.map Binding.name :=
  List.map_map

theorem events_registerAll {aliases : List (String × String)} (knows : registry.KnowsAll aliases)
    (distinct : (Table.keys aliases).Nodup) :
    (registry.registerAll aliases).events = registry.account (registry.aliasBindings aliases) := by
  induction aliases generalizing registry with
  | nil => rfl
  | cons pair rest ih =>
    obtain ⟨name, identifier⟩ := pair
    obtain ⟨absent, others⟩ := List.nodup_cons.mp distinct
    obtain ⟨⟨implementation, known⟩, knows⟩ := knows.cons
    let next := (registry.bind name implementation).1
    have later : (next.registerAll rest).events = next.account (registry.aliasBindings rest) :=
      @ih next knows others
    have there : next.account (registry.aliasBindings rest) =
        registry.account (registry.aliasBindings rest) := by
      refine account_congr fun binding member => ⟨?_, ?_⟩
      · refine (lookup_bind _ _ _).trans (if_neg fun same => absent ?_)
        change name ∈ Table.keys rest
        rw [← keys_targets knows, ← entries_aliasBindings, names_entries, ← same]
        exact List.mem_map_of_mem member
      · cases binding <;> rfl
    rw [aliasBindings_cons known, account_cons, ← there, ← later]
    simp only [registerAll, register_of_cataloged known]
    rfl

/-! ## Warnings of aliases -/

theorem filter_overwriting (name : String) :
    (registry.overwriting name).filter (fun event => event.level == .warn) =
      registry.overwriting name := by
  rw [overwriting]
  cases registry.lookup name <;> rfl

/-- Of the aliases that are bound, those are warned of that stand for something already. -/
theorem warnings_registerAll {aliases : List (String × String)} (knows : registry.KnowsAll aliases)
    (distinct : (Table.keys aliases).Nodup) :
    (registry.registerAll aliases).events.filter (fun event => event.level == .warn) =
      aliases.flatMap fun (name, _) => registry.overwriting name := by
  rw [events_registerAll knows distinct]
  clear distinct
  induction aliases with
  | nil => rfl
  | cons pair rest ih =>
    obtain ⟨name, identifier⟩ := pair
    obtain ⟨⟨implementation, known⟩, knows⟩ := knows.cons
    have here : ((Binding.cataloged name identifier implementation).events registry).filter
        (fun event => event.level == .warn) = registry.overwriting name :=
      filter_overwriting name
    rw [aliasBindings_cons known, account_cons, List.filter_append, here, ih knows,
      List.flatMap_cons]

theorem warnings_apply (config : Config) :
    (registry.apply config).events.filter (fun event => event.level == .warn) =
      if (registry.apply config).failure?.isNone then
        config.aliases.flatMap fun (name, _) => registry.overwriting name
      else [] := by
  rcases registry.knowsAll_or_missing config.aliases with
    knows | ⟨before, name, identifier, after, split, knows, missing⟩
  · rw [(apply_of_knowsAll knows).2, apply_eq_registerAll knows, List.filter_append,
      warnings_registerAll knows config.ascending.nodup_keys]
    exact List.append_nil _
  · rw [apply_of_missing split knows missing]
    rfl

end Registry
end MatchTree
