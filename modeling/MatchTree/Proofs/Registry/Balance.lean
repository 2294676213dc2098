import Mathlib.Data.List.Basic
import MatchTree.Proofs.Registry.Account

/-!
The events of any changes but resets account for the tables.

A table of names grows by the bindings that are announced without a warning. The bindings that a
change makes can be told from the change and from the catalog that it finds, and its warnings
from the tables that it finds.
-/

set_option autoImplicit false
namespace MatchTree

namespace Change

/-- What a change binds, in the order in which it does. -/
def bindings (registry : Registry) : Change → List Binding
  | register name identifier => registry.aliasBindings [(name, identifier)]
  | registerTitled name title implementation => [.titled name title implementation]
  | registerKind name kind => [.titled name kind.title (.ofKind kind)]
  | registerFactory name implementation => [.factory name implementation]
  | registerBuiltins => Kind.builtin.map .ofKind
  | apply config =>
    if config.aliases.all fun (_, identifier) => (registry.catalog.get? identifier).isSome then
      registry.aliasBindings config.aliases
    else []
  | _ => []

/-- What a change announces after its bindings. -/
def closing (registry : Registry) : Change → List Event
  | apply config =>
    if config.aliases.all fun (_, identifier) => (registry.catalog.get? identifier).isSome then
      [.applied config.aliases.length]
    else []
  | _ => []

end Change

namespace Registry
variable {registry : Registry}

/-! ## One change -/

theorem not_knowsAll {aliases before after : List (String × String)} {name identifier : String}
    (split : aliases = before ++ (name, identifier) :: after)
    (missing : registry.catalog.get? identifier = none) : ¬ registry.KnowsAll aliases :=
  fun knows => knows name identifier (by simp [split]) missing

theorem events_change {change : Change} (goesOn : change.isReset = false) :
    (registry.change change).events =
      registry.account (change.bindings registry) ++ change.closing registry := by
  cases change with
  | register name identifier =>
    cases known : registry.catalog.get? identifier with
    | none => simp [Registry.change, register_of_unknown known, Change.bindings, Change.closing,
        aliasBindings, account, known]
    | some implementation =>
      simp [Registry.change, register_of_cataloged known, Change.bindings, Change.closing,
        aliasBindings, account, known]
  | registerTitled name title implementation =>
    exact (events_registerTitled name title implementation).trans (List.append_nil _).symm
  | registerKind name kind =>
    exact (events_registerTitled name kind.title (.ofKind kind)).trans (List.append_nil _).symm
  | registerFactory name implementation =>
    have warned := registry.events_bind name implementation
    simp [Registry.change, Attempt.done, registerFactory, warned, Change.bindings, Change.closing,
      account, Binding.events, Binding.remarks, Binding.event, Binding.name]
  | registerBuiltins =>
    have distinct : (Kind.builtin.map Kind.title).Nodup := Kind.nodup_builtin
    exact (events_registerKinds distinct).trans (List.append_nil _).symm
  | apply config =>
    rcases registry.knowsAll_or_missing config.aliases with
      knows | ⟨before, name, identifier, after, split, knows, missing⟩
    · have all := knowsAll_iff.mpr knows
      rw [Change.bindings, Change.closing, if_pos all, if_pos all,
        ← events_registerAll knows config.ascending.nodup_keys]
      exact congrArg Attempt.events (apply_eq_registerAll knows)
    · have some : ¬ _ := mt knowsAll_iff.mp (not_knowsAll split missing)
      rw [Change.bindings, Change.closing, if_neg some, if_neg some]
      exact congrArg Attempt.events (apply_of_missing split knows missing)
  | reset => contradiction
  | _ => rfl

/-- The names of one change are distinct. -/
theorem nodup_bindings {change : Change} :
    ((change.bindings registry).map Binding.name).Nodup := by
  cases change with
  | register name identifier =>
    cases known : registry.catalog.get? identifier <;> simp [Change.bindings, aliasBindings, known]
  | registerBuiltins => exact Kind.nodup_builtin
  | apply config =>
    rw [Change.bindings]
    split
    · rename_i knows
      rw [← names_entries, entries_aliasBindings, keys_targets (knowsAll_iff.mp knows)]
      exact config.ascending.nodup_keys
    · exact .nil
  | registerTitled | registerKind | registerFactory => exact List.pairwise_singleton _ _
  | _ => exact .nil

theorem bindings_after {change : Change} (goesOn : change.isReset = false) :
    (registry.after change).bindings =
      Table.insertAll ((change.bindings registry).map Binding.entry) registry.bindings := by
  cases change with
  | register name identifier =>
    cases known : registry.catalog.get? identifier with
    | none =>
      rw [after_register, register_of_unknown known]
      simp [Change.bindings, aliasBindings, known]
    | some implementation =>
      rw [after_register, register_of_cataloged known]
      simp [Change.bindings, aliasBindings, known]
      rfl
  | registerBuiltins => 
    rw [after_registerBuiltins]
    exact bindings_registerKinds Kind.builtin
  | apply config =>
    rcases registry.knowsAll_or_missing config.aliases with
      knows | ⟨before, name, identifier, after, split, knows, missing⟩
    · rw [after_apply, (apply_of_knowsAll knows).1, Change.bindings,
        if_pos (knowsAll_iff.mpr knows), entries_aliasBindings]
    · rw [after_apply, apply_of_missing split knows missing, Change.bindings,
        if_neg (mt knowsAll_iff.mp (not_knowsAll split missing))]
      rfl
  | defineBuiltins =>
    rw [after_defineBuiltins, defineBuiltins_eq]
    rfl
  | reset => contradiction
  | _ => rfl

/-- A change binds under a title exactly what it offers to the catalog. -/
theorem mem_bindings_titled_iff {change : Change} {title : String}
    {implementation : Implementation} :
    (∃ name, .titled name title implementation ∈ change.bindings registry) ↔
      change.offers? title = some implementation := by
  have aliases (pairs : List (String × String)) :
      ¬ ∃ name, .titled name title implementation ∈ registry.aliasBindings pairs := by
    rintro ⟨name, member⟩
    obtain ⟨_, _, made⟩ := List.mem_filterMap.mp member
    obtain ⟨_, _, other⟩ := Option.map_eq_some_iff.mp made
    contradiction
  have unoffered : none ≠ some implementation := (Option.some_ne_none implementation).symm
  cases change with
  | register name identifier => exact iff_of_false (aliases _) unoffered
  | registerTitled name found offered =>
    simp [Change.bindings, Change.offers?, eq_comm]
  | registerKind name kind => simp [Change.bindings, Change.offers?, eq_comm]
  | registerBuiltins =>
    simp only [Change.bindings, Change.offers?, usual?_eq_some_iff, List.mem_map, Binding.ofKind,
      Binding.titled.injEq]
    constructor
    · rintro ⟨name, kind, member, -, rfl, rfl⟩
      exact ⟨kind, member, rfl, rfl⟩
    · rintro ⟨kind, member, rfl, rfl⟩
      exact ⟨_, kind, member, rfl, rfl, rfl⟩
  | apply config =>
    rw [Change.bindings]
    split
    · exact iff_of_false (aliases _) unoffered
    · exact iff_of_false (by simp) unoffered
  | _ => exact iff_of_false (by simp [Change.bindings]) unoffered

end Registry

/-- What is announced of a change accounts for what the change does. -/
structure Change.Accounted (registry : Registry) (change : Change) : Prop where
  size : (registry.after change).size + (registry.change change).events.countP Event.isOverwriting =
    registry.size + (registry.change change).events.countP Event.isBinding
  overwritten : ∀ front name previous back,
    (registry.change change).events = front ++ .overwritten name previous :: back →
      (∃ earlier event, front = earlier ++ [event] ∧ event.bound? = some name) ∧
        ∃ implementation, registry.lookup name = some implementation ∧
          implementation.typeName = previous
  failed : (registry.change change).failure? ≠ none → (registry.change change).events = []
  cataloged : ∀ title cataloged ignored,
    .alreadyCataloged title cataloged ignored ∈ (registry.change change).events ↔
      ∃ offered entry, change.offers? title = some offered ∧
        registry.catalog.get? title = some entry ∧ entry.typeName ≠ offered.typeName ∧
          cataloged = entry.typeName ∧ ignored = offered.typeName
  kept : ∀ title cataloged ignored,
    .alreadyCataloged title cataloged ignored ∈ (registry.change change).events →
      (registry.after change).catalog = registry.catalog

namespace Registry
variable {registry : Registry}

theorem size_after (order : registry.InOrder) {change : Change}
    (goesOn : change.isReset = false) :
    (registry.after change).size +
        (registry.change change).events.countP Event.isOverwriting =
      registry.size + (registry.change change).events.countP Event.isBinding := by
  have closing : (change.closing registry).countP Event.isOverwriting = 0 ∧
      (change.closing registry).countP Event.isBinding = 0 := by
    cases change with
    | apply config => rw [Change.closing]; split <;> exact ⟨rfl, rfl⟩
    | _ => exact ⟨rfl, rfl⟩
  obtain ⟨bound, overwritten⟩ := countP_account registry (change.bindings registry)
  have names := names_entries (change.bindings registry)
  have distinct : (Table.keys ((change.bindings registry).map Binding.entry)).Nodup := by
    rw [names]
    exact nodup_bindings
  have grown : (registry.after change).size = registry.size +
      (((change.bindings registry).map Binding.name).filter
        fun name => !registry.contains name).length := by
    rw [size, bindings_after goesOn, Table.length_insertAll distinct order.bindings, names]
    rfl
  -- the names that were bound before and those that were not are all the names
  have both := @List.length_eq_length_filter_add _ ((change.bindings registry).map Binding.name)
    registry.contains
  rw [List.length_map] at both
  rw [events_change goesOn, List.countP_append, List.countP_append, closing.1, closing.2, bound,
    overwritten, grown, both]
  omega

theorem events_of_failed {change : Change}
    (failed : (registry.change change).failure? ≠ none) : (registry.change change).events = [] := by
  cases change with
  | register name identifier =>
    cases known : registry.catalog.get? identifier with
    | none => exact congrArg Attempt.events (register_of_unknown known)
    | some implementation => exact absurd (register_of_known known).2 failed
  | apply config =>
    rcases registry.knowsAll_or_missing config.aliases with
      knows | ⟨before, name, identifier, after, split, knows, missing⟩
    · exact absurd (apply_of_knowsAll knows).2 failed
    · exact congrArg Attempt.events (apply_of_missing split knows missing)
  | _ => exact absurd rfl failed

theorem mem_events_alreadyCataloged_iff {change : Change} (goesOn : change.isReset = false)
    {title cataloged ignored : String} :
    .alreadyCataloged title cataloged ignored ∈ (registry.change change).events ↔
      ∃ offered entry, change.offers? title = some offered ∧
        registry.catalog.get? title = some entry ∧ entry.typeName ≠ offered.typeName ∧
          cataloged = entry.typeName ∧ ignored = offered.typeName := by
  have closing : .alreadyCataloged title cataloged ignored ∉ change.closing registry := by
    cases change with
    | apply config => rw [Change.closing]; split <;> simp
    | _ => exact List.not_mem_nil
  have warning (binding : Binding) :
      .alreadyCataloged title cataloged ignored ∉ registry.overwriting binding.name := by
    rw [overwriting]
    cases registry.lookup binding.name <;> simp
  have announcing (binding : Binding) :
      Event.alreadyCataloged title cataloged ignored ≠ binding.event := by
    cases binding <;> simp [Binding.event]
  rw [events_change goesOn, List.mem_append, or_iff_left closing, account, List.mem_flatMap]
  simp only [Binding.events, List.mem_append, List.mem_cons, announcing, warning, or_false,
    Binding.mem_remarks_iff]
  constructor
  · rintro ⟨_, member, name, found, offered, entry, rfl, known, other, same⟩
    obtain ⟨rfl, rfl, rfl⟩ := Event.alreadyCataloged.inj same
    exact ⟨offered, entry, mem_bindings_titled_iff.mp ⟨name, member⟩, known, other, rfl, rfl⟩
  · rintro ⟨offered, entry, offers, known, other, rfl, rfl⟩
    obtain ⟨name, member⟩ := mem_bindings_titled_iff.mpr offers
    exact ⟨_, member, name, title, offered, entry, rfl, known, other, rfl⟩

/-- A change with one offer that comes too late makes no other that does not. -/
theorem catalog_after_of_cataloged (order : registry.InOrder)
    (usual : ∀ kind ∈ Kind.builtin, ∃ entry, registry.catalog.get? kind.title = some entry)
    {change : Change} (goesOn : change.isReset = false) {title : String}
    {offered entry : Implementation} (offers : change.offers? title = some offered)
    (known : registry.catalog.get? title = some entry) :
    (registry.after change).catalog = registry.catalog := by
  refine Table.ext_of_get? (order.after change).catalog order.catalog fun identifier => ?_
  have nothing : change.defines? identifier = none := by
    cases change with
    | defineImplementation | defineBuiltins => contradiction
    | _ => rfl
  rw [catalog_after goesOn, nothing, Option.none_or]
  cases there : registry.catalog.get? identifier with
  | some entry => rfl
  | none =>
    rw [Option.none_or, Option.eq_none_iff_forall_ne_some]
    intro implementation offers'
    -- only the usual kinds are offered several at once
    cases change with
    | registerTitled name found =>
      simp only [Change.offers?, Option.ite_none_right_eq_some] at offers offers'
      obtain ⟨rfl, -⟩ := offers
      obtain ⟨rfl, -⟩ := offers'
      rw [known] at there
      contradiction
    | registerKind name kind =>
      simp only [Change.offers?, Option.ite_none_right_eq_some] at offers offers'
      obtain ⟨rfl, -⟩ := offers
      obtain ⟨rfl, -⟩ := offers'
      rw [known] at there
      contradiction
    | registerBuiltins =>
      obtain ⟨kind, member, rfl, -⟩ := usual?_eq_some_iff.mp offers'
      obtain ⟨entry, found⟩ := usual kind member
      rw [found] at there
      contradiction
    | _ => contradiction

theorem accounted (order : registry.InOrder)
    (usual : ∀ kind ∈ Kind.builtin, ∃ entry, registry.catalog.get? kind.title = some entry)
    {change : Change} (goesOn : change.isReset = false) : change.Accounted registry where
  size := size_after order goesOn
  overwritten front name previous back split := by
    refine account_split ?_ ((events_change goesOn).symm.trans split)
    intro event member
    cases change with
    | apply config =>
      rw [Change.closing] at member
      split at member
      · obtain rfl := List.mem_singleton.mp member
        rfl
      · contradiction
    | _ => contradiction
  failed := events_of_failed
  cataloged title cataloged ignored := mem_events_alreadyCataloged_iff goesOn
  kept title cataloged ignored announced := by
    obtain ⟨offered, entry, offers, known, -⟩ :=
      (mem_events_alreadyCataloged_iff goesOn).mp announced
    exact catalog_after_of_cataloged order usual goesOn offers known

/-! ## Several changes -/

/-- All that is announced in the course of several changes. -/
def announced (registry : Registry) : List Change → List Event
  | [] => []
  | change :: rest => (registry.change change).events ++ (registry.after change).announced rest

theorem size_afterAll {changes : List Change}
    (accounted : ∀ before change after, changes = before ++ change :: after →
      change.Accounted (registry.afterAll before)) :
    (registry.afterAll changes).size +
        (registry.announced changes).countP Event.isOverwriting =
      registry.size + (registry.announced changes).countP Event.isBinding := by
  induction changes generalizing registry with
  | nil => rfl
  | cons change rest ih =>
    have here := (accounted [] change rest rfl).size
    have there := @ih (registry.after change) fun before next after split =>
      accounted (change :: before) next after (congrArg (change :: ·) split)
    simp only [announced, List.countP_append]
    change ((registry.after change).afterAll rest).size + _ = _
    simp only [afterAll, List.foldl_nil] at here
    omega

/-- The account of any changes but resets, from any registry that changes can lead to. -/
theorem changes_accounted (start : Start) (earlier changes : List Change)
    (goesOn : ∀ change ∈ changes, change.isReset = false) :
    let registry := start.registry.afterAll earlier
    ((registry.afterAll changes).size +
        (registry.announced changes).countP Event.isOverwriting =
      registry.size + (registry.announced changes).countP Event.isBinding) ∧
    ∀ before change after, changes = before ++ change :: after →
      change.Accounted (registry.afterAll before) := by
  intro registry
  have accounts : ∀ before change after, changes = before ++ change :: after →
      change.Accounted (registry.afterAll before) := by
    intro before change after split
    have tells := ((History.tells_start start).afterAll earlier).afterAll before
    refine accounted tells.order (fun kind member => ?_) (goesOn change (by simp [split]))
    rw [tells.cataloged]
    exact History.usual_cataloged member
  exact ⟨size_afterAll accounts, accounts⟩

/-- A name that is bound again, a title that is taken and an identifier that is missing. -/
theorem changes_accounted_of_rebound :
    let registry := Start.empty.registry.afterAll [.register "begin" "startsWith"]
    let changes : List Change := [.register "begin" "endsWith",
      .registerTitled "part" "contains" (.foreign "Own"), .register "end" "absent"]
    (∀ change ∈ changes, change.isReset = false) ∧
      registry.announced changes = [.registering "begin" "endsWith",
        .overwritten "begin" Kind.startsWith.typeName,
        .alreadyCataloged "contains" Kind.contains.typeName "Own",
        .registeringKind "part" "contains"] ∧
      (registry.afterAll changes).size + 1 = registry.size + 2 ∧
      Change.Accounted (registry.afterAll [.register "begin" "endsWith"])
        (.registerTitled "part" "contains" (.foreign "Own")) := by
  intro registry changes
  have goesOn : ∀ change ∈ changes, change.isReset = false := by simp [changes, Change.isReset]
  have told : registry.announced changes = [.registering "begin" "endsWith",
      .overwritten "begin" Kind.startsWith.typeName,
      .alreadyCataloged "contains" Kind.contains.typeName "Own",
      .registeringKind "part" "contains"] := by decide +kernel
  obtain ⟨size, accounts⟩ :=
    changes_accounted .empty [.register "begin" "startsWith"] changes goesOn
  rw [told] at size
  exact ⟨goesOn, told, size, accounts [.register "begin" "endsWith"] _ _ rfl⟩

end Registry
end MatchTree
