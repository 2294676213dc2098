import MatchTree.Proofs.Structure.Difference
import MatchTree.Proofs.Test.RawTexts

/-!
Which texts can break the errors of expanders.

An error is put together from shown values, from names and from other errors, and from the texts
that the tests of an expander and the keys of its patterns put into it raw. Keys of the value are
told too, where a pattern is strict. If none of these is broken, no entry of a visit has an error
that is.
-/

set_option autoImplicit false
namespace MatchTree

namespace Value

mutual

/-- The keys of all objects in a value, itself included. -/
def keysWithin : Value → List String
  | .array items => keysWithinItems items
  | .object fields => keysWithinFields fields
  | _ => []

def keysWithinItems : List Value → List String
  | [] => []
  | item :: rest => item.keysWithin ++ keysWithinItems rest

def keysWithinFields : List (String × Value) → List String
  | [] => []
  | (key, v) :: rest => key :: (v.keysWithin ++ keysWithinFields rest)

end

theorem keysWithin_subset_of_item {items : List Value} {item : Value} (member : item ∈ items) :
    item.keysWithin ⊆ (Value.array items).keysWithin := by
  intro key inside
  show key ∈ keysWithinItems items
  induction items with
  | nil => contradiction
  | cons first rest ih =>
    rw [keysWithinItems]
    rcases List.mem_cons.mp member with rfl | later
    · exact List.mem_append_left _ inside
    · exact List.mem_append_right _ (ih later)

theorem keysWithin_subset_of_field {fields : List (String × Value)} {field : String × Value}
    (member : field ∈ fields) :
    field.1 :: field.2.keysWithin ⊆ (Value.object fields).keysWithin := by
  intro key inside
  show key ∈ keysWithinFields fields
  induction fields with
  | nil => contradiction
  | cons first rest ih =>
    rw [keysWithinFields, ← List.cons_append]
    rcases List.mem_cons.mp member with rfl | later
    · exact List.mem_append_left _ inside
    · exact List.mem_append_right _ (ih later)

/-- No key in a value is broken. -/
def UnbrokenKeys (v : Value) : Prop := ∀ key ∈ v.keysWithin, Unbroken key

instance (v : Value) : Decidable v.UnbrokenKeys :=
  inferInstanceAs (Decidable (∀ key ∈ v.keysWithin, Unbroken key))

theorem UnbrokenKeys.item {items : List Value} {item : Value}
    (keys : (Value.array items).UnbrokenKeys) (member : item ∈ items) : item.UnbrokenKeys :=
  fun key inside => keys key (keysWithin_subset_of_item member inside)

theorem UnbrokenKeys.field {fields : List (String × Value)} {field : String × Value}
    (keys : (Value.object fields).UnbrokenKeys) (member : field ∈ fields) :
    Unbroken field.1 ∧ field.2.UnbrokenKeys :=
  List.forall_mem_cons.mp fun key inside => keys key (keysWithin_subset_of_field member inside)

end Value

/-! ## Patterns -/

namespace Structure
variable {strict : Bool}

theorem toldInLine_whole {pattern actual : Value} (whole : byParts pattern actual = false) :
    ToldInLine (compare strict pattern actual) := by
  rw [compare_whole whole]
  split
  · exact toldInLine_ok ()
  · exact toldInLine_error_iff.mpr (List.forall_mem_nil _)

theorem toldInLine_compareItems {patterns items : List Value} {index : Nat}
    (told : ∀ p ∈ patterns, ∀ a ∈ items, ToldInLine (compare strict p a)) :
    ToldInLine (compareItems strict index patterns items) := by
  intro mismatch failed
  obtain ⟨i, p, a, inner, here, there, wrong, rfl, _⟩ := compareItems_error failed
  have unbroken :=
    told p (List.mem_of_getElem? here) a (List.mem_of_getElem? there) inner wrong
  exact (Mismatch.atIndex (index + i) inner).unbroken_message_iff.mpr
    (inner.unbroken_message_iff.mp unbroken)

theorem toldInLine_compareFields {found : Fields} {actual : Value}
    {expected : List (String × Value)} (keys : ∀ field ∈ expected, Unbroken field.1)
    (told : ∀ field ∈ expected, ∀ other ∈ found, ToldInLine (compare strict field.2 other.2)) :
    ToldInLine (compareFields strict found actual expected) := by
  induction expected with
  | nil =>
    rw [compareFields]
    exact toldInLine_ok ()
  | cons field rest ih =>
    obtain ⟨key, pattern⟩ := field
    obtain ⟨unbroken, keys⟩ := List.forall_mem_cons.mp keys
    obtain ⟨first, told⟩ := List.forall_mem_cons.mp told
    rw [compareFields]
    cases known : found.get? key with
    | none => exact toldInLine_error_iff.mpr (List.forall_mem_singleton.mpr unbroken)
    | some v =>
      have within := first (key, v) (Table.mem_of_get? known)
      refine ToldInLine.bind ?_ fun _ => ih keys told
      cases came : compare strict pattern v with
      | ok u => exact toldInLine_ok u
      | error inner =>
        rw [came, toldInLine_error_iff] at within
        exact toldInLine_error_iff.mpr (List.forall_mem_cons.mpr ⟨unbroken, within⟩)

/-- Keys are all that a comparison tells raw. -/
theorem toldInLine_compare {pattern actual : Value} (keys : pattern.UnbrokenKeys)
    (keys' : actual.UnbrokenKeys) : ToldInLine (compare strict pattern actual) := by
  induction pattern generalizing actual with
  | array patterns ih =>
    cases actual with
    | array items =>
      rw [compare]
      split
      · exact toldInLine_compareItems fun p here a there =>
          ih p here (keys.item here) (keys'.item there)
      · exact toldInLine_error_iff.mpr (List.forall_mem_nil _)
    | _ => exact toldInLine_whole rfl
  | object expected ih =>
    cases actual with
    | object found =>
      rw [compare_object]
      refine ToldInLine.bind ?_ fun _ => ?_
      · exact toldInLine_compareFields (fun field here => (keys.field here).1)
          fun field here other there =>
            ih field here (keys.field here).2 (keys'.field there).2
      · split
        case h_1 field extra =>
          -- the one key that is told of the value, and not of the pattern
          have there : field ∈ found := by
            cases strict with
            | true => exact List.mem_of_find?_eq_some extra
            | false => contradiction
          exact toldInLine_error_iff.mpr (List.forall_mem_singleton.mpr (keys'.field there).1)
        case h_2 => exact toldInLine_ok ()
    | _ => exact toldInLine_whole rfl
  | _ => exact toldInLine_whole rfl

end Structure

/-! ## Visits -/

namespace Expander

mutual

/-- The texts of an expander and of those inside it that stand raw in errors. -/
def rawTexts : Expander → List String
  | .test _ t => t.rawTexts
  | .oneOf _ children => rawTextsOfAll children
  | .each _ pattern _ | .structural _ pattern => rawTextsOfPattern pattern
  | .record _ _ _ | .silent _ | .impostor _ => []

def rawTextsOfAll : List Expander → List String
  | [] => []
  | child :: rest => child.rawTexts ++ rawTextsOfAll rest

def rawTextsOfPattern : Argument Expander → List String
  | .literal pattern => pattern.keysWithin
  | .nested child => child.rawTexts

end

theorem rawTextsOfAll_eq_flatMap (children : List Expander) :
    rawTextsOfAll children = children.flatMap rawTexts := by
  induction children with
  | nil => rfl
  | cons child rest ih => rw [rawTextsOfAll, List.flatMap_cons, ih]

/-- No text is broken that a visit of a value can put into errors. -/
structure Unbreaking (e : Expander) (v : Value) : Prop where
  texts : ∀ text ∈ e.rawTexts, Unbroken text
  keys : v.UnbrokenKeys

theorem Unbreaking.of_mem_calls {e child : Expander} {v w : Value} (plain : e.Unbreaking v)
    (member : (child, w) ∈ e.calls v) : child.Unbreaking w := by
  obtain ⟨texts, keys⟩ := plain
  unfold calls at member
  split at member
  · obtain ⟨found, inside, pair⟩ := List.mem_map.mp member
    obtain ⟨rfl, rfl⟩ := Prod.mk.inj pair
    rw [rawTexts, rawTextsOfAll_eq_flatMap, List.forall_mem_flatMap] at texts
    exact ⟨texts found (mem_of_mem_upTo inside), keys⟩
  · obtain ⟨item, inside, pair⟩ := List.mem_map.mp member
    obtain ⟨rfl, rfl⟩ := Prod.mk.inj pair
    exact ⟨texts, keys.item (mem_of_mem_upTo inside)⟩
  · obtain ⟨rfl, rfl⟩ := Prod.mk.inj (List.mem_singleton.mp member)
    exact ⟨texts, keys⟩
  · contradiction

theorem unbroken_name (e : Expander) : Unbroken e.name := by
  cases e with
  | test log t => cases t <;> simp only [name, Test.title] <;> decide
  | _ =>
    simp only [name]
    decide

end Expander

/-- If a check fails, the error is one line. -/
def Survey.ToldInLine (survey : Survey) : Prop :=
  ∀ error, survey.outcome = .error error → Unbroken error

/-- If a visit leaves an error, it is one line. -/
def Visit.ToldInLine (visit : Visit) : Prop := ∀ error, visit.error = some error → Unbroken error

theorem Visit.toldInLine_reported {name : String} {v : Value} {inner : List Visit}
    {outcome : Except String Unit} (told : Survey.ToldInLine ⟨inner, outcome⟩) :
    Visit.ToldInLine ⟨name, v, inner, .reported outcome⟩ := by
  intro error left
  cases outcome with
  | ok u => contradiction
  | error first => exact told error (congrArg Except.error (Option.some.inj left))

theorem Ending.error_of_mem_stages {ending : Ending} {stage : Stage} {name : String} {v : Value}
    {error : String} (member : stage ∈ ending.stages)
    (told : (Entry.mk stage name v).error? = some error) : ending.error = some error := by
  cases ending with
  | unreported accepted => contradiction
  | reported outcome =>
    cases outcome with
    | ok u =>
      obtain rfl := List.mem_singleton.mp member
      contradiction
    | error first =>
      obtain rfl := List.mem_singleton.mp member
      exact told

/-- A mismatch is reported by its message. -/
theorem ToldInLine.survey {outcome : Except Mismatch Unit} (told : ToldInLine outcome)
    (inner : List Visit) : Survey.ToldInLine ⟨inner, outcome.mapError Mismatch.message⟩ := by
  intro error failed
  cases outcome with
  | ok u => contradiction
  | error mismatch => exact Except.error.inj failed ▸ told mismatch rfl

namespace Expander

theorem unbroken_reasonOr {e : Expander} {v : Value} {otherwise : String → String}
    (told : (e.visit v).ToldInLine) (plain : Unbroken (otherwise e.name)) :
    Unbroken (reasonOr (e.visit v) otherwise) := by
  rw [reasonOr, name_visit]
  cases left : (e.visit v).error with
  | none => exact plain
  | some error => exact told error left

theorem toldInLine_visitItems {check : Value → Survey} {items : List Value} {index : Nat}
    (told : ∀ item ∈ items, (check item).ToldInLine) :
    (visitItems check index items).ToldInLine := by
  induction items generalizing index with
  | nil => nofun
  | cons item rest ih =>
    obtain ⟨first, later⟩ := List.forall_mem_cons.mp told
    rw [visitItems]
    cases came : (check item).outcome with
    | ok u => exact fun error failed => ih later error failed
    | error inner =>
      intro error failed
      obtain rfl := Except.error.inj failed
      exact (Mismatch.atItem index inner).unbroken_message_iff.mpr
        (List.forall_mem_singleton.mpr (first inner came))

mutual

/-- By induction on the expander: an error is put together here, of errors told inside. -/
theorem toldInLine_visit : ∀ (e : Expander) {v : Value}, e.Unbreaking v → (e.visit v).ToldInLine
  | .test _ _, v, plain =>
    Visit.toldInLine_reported ((Test.toldInLine_check plain.texts v).survey [])
  | .oneOf _ children, _, plain =>
    Visit.toldInLine_reported (toldInLine_visitFirst children plain.texts plain.keys nofun)
  | .each _ pattern _, v, plain => by
    have refused : ToldInLine (.error (.notArray v) : Except Mismatch Unit) :=
      toldInLine_error_iff.mpr (List.forall_mem_nil _)
    cases v with
    | array items =>
      exact Visit.toldInLine_reported (toldInLine_visitItems fun item member =>
        toldInLine_visitPattern pattern plain.texts (plain.keys.item member))
    | _ => exact Visit.toldInLine_reported (refused.survey [])
  | .structural _ pattern, _, plain =>
    Visit.toldInLine_reported (toldInLine_visitPattern pattern plain.texts plain.keys)
  | .record _ _ _, _, _ | .silent _, _, _ | .impostor _, _, _ => nofun

theorem toldInLine_visitFirst : ∀ (children : List Expander) {v : Value} {errors : List String},
    (∀ text ∈ rawTextsOfAll children, Unbroken text) → v.UnbrokenKeys →
    (∀ error ∈ errors, Unbroken error) → (visitFirst children v errors).ToldInLine
  | [], _, errors, _, _, told => fun error failed =>
    Except.error.inj failed ▸ (Mismatch.noneMatched errors).unbroken_message_iff.mpr told
  | child :: rest, v, errors, texts, keys, told => by
    obtain ⟨here, later⟩ := List.forall_mem_append.mp texts
    have first := toldInLine_visit child ⟨here, keys⟩
    have named : Unbroken s!"#{child.name} did not match" :=
      unbroken_append_iff.mpr
        ⟨unbroken_append_iff.mpr ⟨by decide, child.unbroken_name⟩, by decide⟩
    have next : Unbroken (reasonOr (child.visit v) fun name => s!"#{name} did not match") :=
      unbroken_reasonOr first named
    rw [visitFirst]
    split
    case isTrue => nofun
    case isFalse =>
      have grown := List.forall_mem_append.mpr ⟨told, List.forall_mem_singleton.mpr next⟩
      exact toldInLine_visitFirst rest later keys grown

theorem toldInLine_visitPattern : ∀ (pattern : Argument Expander) {strict : Bool} {v : Value},
    (∀ text ∈ rawTextsOfPattern pattern, Unbroken text) → v.UnbrokenKeys →
    (visitPattern pattern strict v).ToldInLine
  | .literal _, _, _, texts, keys => (Structure.toldInLine_compare texts keys).survey []
  | .nested child, strict, v, texts, keys => by
    have named : Unbroken (Mismatch.rejected v child.name).message :=
      (Mismatch.rejected v child.name).unbroken_message_iff.mpr
        (List.forall_mem_singleton.mpr child.unbroken_name)
    have told := unbroken_reasonOr (toldInLine_visit child ⟨texts, keys⟩) named
    intro error failed
    rw [visitPattern] at failed
    dsimp only at failed
    split at failed
    case isTrue => contradiction
    case isFalse => exact Except.error.inj failed ▸ told

end

/-- What every entrance and every ending on the way of a visit has, all its entries have, if what
is visited on the way is as fit as what the visit is of. -/
theorem forall_mem_entries {fit : Expander → Value → Prop} {holds : Entry → Prop}
    (passes : ∀ {e child : Expander} {v w : Value}, fit e v → (child, w) ∈ e.calls v → fit child w)
    (entrance : ∀ {e : Expander} {v : Value}, fit e v → holds ⟨.entrance, e.name, v⟩)
    (closing : ∀ {e : Expander} {v : Value}, fit e v → ∀ entry ∈ (e.visit v).closing, holds entry)
    {e : Expander} {v : Value} (fits : fit e v) : ∀ entry ∈ (e.visit v).entries, holds entry := by
  generalize same : e.visit v = visit
  -- by induction on the visit: those inside it are the visits of the calls
  induction visit using Visit.inductionOn generalizing e v with
  | intro name value inner ending ih =>
    obtain rfl : e.name = name := (name_visit e v).symm.trans (congrArg Visit.name same)
    obtain rfl : v = value := (value_visit e v).symm.trans (congrArg Visit.value same)
    have called : inner = (e.calls v).map fun call => call.1.visit call.2 := by
      rw [← inner_visit, same]
    intro entry member
    rw [Visit.entries, List.mem_cons, List.mem_append, Visit.entriesOfAll_eq_flatMap] at member
    obtain rfl | inside | last := member
    · exact entrance fits
    · obtain ⟨visit, among, inside⟩ := List.mem_flatMap.mp inside
      obtain ⟨⟨child, w⟩, call, rfl⟩ := List.mem_map.mp (called ▸ among)
      exact ih _ among (passes fits call) rfl entry inside
    · exact closing fits entry (same ▸ last)

theorem unbroken_expander_of_mem_entries {e : Expander} {v : Value} :
    ∀ entry ∈ (e.visit v).entries, Unbroken entry.expander := by
  have closing (e : Expander) (v : Value) :
      ∀ entry ∈ (e.visit v).closing, Unbroken entry.expander := by
    intro entry member
    obtain ⟨stage, _, rfl⟩ := List.mem_map.mp member
    exact (name_visit e v).symm ▸ e.unbroken_name
  exact @forall_mem_entries (fun _ _ => True) (fun entry => Unbroken entry.expander)
    (fun _ _ => trivial) (fun {e _} _ => e.unbroken_name) (fun {e v} _ => closing e v) e v trivial

/-- No error that is told on the way of a visit is broken, if no text and no key is. -/
theorem unbroken_error_of_mem_entries {e : Expander} {v : Value} (plain : e.Unbreaking v) :
    ∀ entry ∈ (e.visit v).entries, ∀ error, entry.error? = some error → Unbroken error := by
  have closing {e : Expander} {v : Value} (plain : e.Unbreaking v) :
      ∀ entry ∈ (e.visit v).closing, ∀ error, entry.error? = some error → Unbroken error := by
    intro entry member error told
    obtain ⟨stage, among, rfl⟩ := List.mem_map.mp member
    exact toldInLine_visit e plain error (Ending.error_of_mem_stages among told)
  exact forall_mem_entries (fun plain member => plain.of_mem_calls member) (fun _ => nofun)
    closing plain

end Expander
end MatchTree
