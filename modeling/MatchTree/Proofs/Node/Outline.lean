import Mathlib
import MatchTree.Node.Written
import MatchTree.Proofs.Node.RoundTrip
import MatchTree.Proofs.Value.Induction

/-!
What the outermost shape of a document decides.

A document whose outermost shape is that of a tree describes one, whatever its arguments hold.
What looks like a nested tree and is none falls back to a literal for the whole of it. A text
that spells no value, say for a number beyond all floats, is no document to begin with.
-/

set_option autoImplicit false
namespace MatchTree

/-! ## Literals -/

/-- A literal says what a document says: the same scalars, the same items one by one, and under
each key of an object the same, with the keys in order. -/
inductive Value.Denotes : (document literal : Value) → Prop
  | null : Denotes .null .null
  | bool (b : Bool) : Denotes (.bool b) (.bool b)
  | int (i : Int64) : Denotes (.int i) (.int i)
  | float (x : Double) : Denotes (.float x) (.float x)
  | string (s : String) : Denotes (.string s) (.string s)
  | array {items items' : List Value} (each : List.Forall₂ Denotes items items') :
    Denotes (.array items) (.array items')
  | object {fields fields' : List (String × Value)} (order : Table.Ascending fields')
    (each : ∀ key, Option.Rel Denotes (Table.get? fields key) (Table.get? fields' key)) :
    Denotes (.object fields) (.object fields')

namespace Value

theorem tidyItems_eq_map (items : List Value) : tidyItems items = items.map tidy := by
  induction items with
  | nil => rfl
  | cons item rest ih => rw [tidyItems, ih, List.map_cons]

theorem denotes_tidy {v : Value} (distinct : v.Distinct) : v.Denotes v.tidy := by
  induction v with
  | null => exact .null
  | bool b => exact .bool b
  | int i => exact .int i
  | float x => exact .float x
  | string s => exact .string s
  | array items ih =>
    refine .array ?_
    rw [tidyItems_eq_map, List.forall₂_map_right_iff, List.forall₂_same]
    exact fun item member => ih item member (distinctItems_iff.mp distinct item member)
  | object fields ih =>
    refine .object (Table.ascending_ofList _) fun key => ?_
    rw [get?_ofList_tidyFields distinct.1]
    cases found : Table.get? fields key with
    | none => exact .none
    | some v =>
      have member := Table.mem_of_get? found
      exact .some (ih (key, v) member (distinctFields_iff.mp distinct.2 (key, v) member))

/-- Nothing else says the same. -/
theorem eq_tidy_of_denotes {v w : Value} (distinct : v.Distinct) (denotes : v.Denotes w) :
    w = v.tidy := by
  induction v generalizing w with
  | array items ih =>
    cases denotes with
    | array each =>
    have distinct := distinctItems_iff.mp distinct
    rw [tidy, tidyItems_eq_map]
    refine congrArg Value.array ?_
    clear * - each ih distinct
    induction each with
    | nil => rfl
    | cons first _ later =>
      obtain ⟨ihFirst, ihRest⟩ := List.forall_mem_cons.mp ih
      obtain ⟨here, there⟩ := List.forall_mem_cons.mp distinct
      rw [List.map_cons, ihFirst here first, later ihRest there]
  | object fields ih =>
    cases denotes with
    | @object _ fields' order each =>
    refine congrArg Value.object (Table.ext_of_get? order (Table.ascending_ofList _) fun key => ?_)
    rw [get?_ofList_tidyFields distinct.1]
    have rel := each key
    cases found : Table.get? fields key with
    | none =>
      rw [found] at rel
      cases there : Table.get? fields' key with
      | none => rfl
      | some w =>
        rw [there] at rel
        cases rel
    | some v =>
      rw [found] at rel
      cases there : Table.get? fields' key with
      | none =>
        rw [there] at rel
        cases rel
      | some w =>
        rw [there] at rel
        obtain ⟨same⟩ := rel
        have member := Table.mem_of_get? found
        have distinct := distinctFields_iff.mp distinct.2 (key, v) member
        rw [ih (key, v) member distinct same, Option.map_some]
  | _ =>
    cases denotes
    rfl

end Value

/-! ## Outermost shapes -/

/-- A document has the shape of a tree, of this name and with these arguments listed: an object
with the two fields, the arguments perhaps left out, or an array of the two. -/
inductive Node.Outline : (document : Value) → (name : String) → (listed : List Value) → Prop
  | fields {fields : List (String × Value)} {name : String} {items : List Value}
    (named : Table.get? fields "name" = some (.string name))
    (listed : Table.get? fields "arguments" = some (.array items)) :
    Outline (.object fields) name items
  | named {fields : List (String × Value)} {name : String}
    (named : Table.get? fields "name" = some (.string name))
    (unlisted : Table.get? fields "arguments" = none) : Outline (.object fields) name []
  | one (name : String) : Outline (.array [.string name]) name []
  | two (name : String) (items : List Value) :
    Outline (.array [.string name, .array items]) name items

namespace Node
variable {document : Value} {node : Node}

theorem describesTree_iff :
    document.describesTree = true ↔ ∃ name items, Outline document name items := by
  constructor
  · intro describes
    unfold Value.describesTree at describes
    split at describes
    · rename_i fields
      obtain ⟨isText, isList⟩ := Bool.and_eq_true_iff.mp describes
      cases named : Table.get? fields "name" with
      | none => simp [named] at isText
      | some v =>
        rw [named] at isText
        cases v with
        | string name =>
          cases listed : Table.get? fields "arguments" with
          | none => exact ⟨name, [], .named named listed⟩
          | some v =>
            rw [listed] at isList
            cases v with
            | array items => exact ⟨name, items, .fields named listed⟩
            | _ => contradiction
        | _ => contradiction
    · exact ⟨_, _, .one _⟩
    · exact ⟨_, _, .two _ _⟩
    · contradiction
  · rintro ⟨name, items, outline⟩
    cases outline with
    | fields named listed =>
      simp [Value.describesTree, named, listed, Value.isString, Value.asArray]
    | named named unlisted => simp [Value.describesTree, named, unlisted, Value.isString]
    | _ => rfl

/-- The name is found among the fields, unless it was read before. -/
theorem ofFields?_name {name? : Option String} {arguments? : Option (List (Argument Node))}
    {fields : List (String × Value)} (distinct : (Table.keys fields).Nodup)
    (read : ofFields? name? arguments? fields = some node) :
    name? = some node.name ∨ Table.get? fields "name" = some (.string node.name) := by
  induction fields generalizing name? arguments? with
  | nil =>
    obtain ⟨name, rfl, rfl⟩ := Option.map_eq_some_iff.mp read
    exact .inl rfl
  | cons field rest ih =>
    obtain ⟨key, v⟩ := field
    obtain ⟨absent, others⟩ := List.nodup_cons.mp distinct
    unfold ofFields? at read
    rw [Table.get?_cons]
    split at read
    · rename_i same
      subst same
      split at read
      · -- what stands under a key listed once is not found again
        have gone : Table.get? rest "name" = none := Table.get?_eq_none_iff.mpr absent
        rcases ih others read with given | found
        · obtain rfl := Option.some.inj given
          exact .inr (if_pos rfl)
        · rw [gone] at found
          contradiction
      · contradiction
    · rename_i other
      rw [if_neg (Ne.symm other)]
      split at read
      · split at read
        · exact ih others read
        · contradiction
      · exact ih others read

theorem Outline.eq_listedArguments {name : String} {items : List Value}
    (outline : Outline document name items) : items = listedArguments document := by
  have lookup (fields : List (String × Value)) :
      fields.lookup "arguments" = Table.get? fields "arguments" := rfl
  cases outline with
  | fields named listed => simp only [listedArguments, lookup, listed]
  | named named unlisted => simp only [listedArguments, lookup, unlisted]
  | _ => rfl

theorem Outline.distinct {name : String} {items : List Value}
    (outline : Outline document name items) (distinct : document.Distinct) :
    ∀ item ∈ items, item.Distinct := by
  cases outline with
  | fields named listed =>
    have distinct := Value.distinctFields_iff.mp distinct.2 _ (Table.mem_of_get? listed)
    exact Value.distinctItems_iff.mp distinct
  | two name items => exact Value.distinctItems_iff.mp distinct.2.1
  | _ => exact nofun

/-- What a document describes has the name and the arguments of its outline. -/
theorem outline_of_ofValue? (distinct : document.Distinct) (read : ofValue? document = some node) :
    Outline document node.name (listedArguments document) := by
  have described : document.describesTree = true := by
    rw [← isSome_ofValue? distinct, read]
    rfl
  obtain ⟨name, items, outline⟩ := describesTree_iff.mp described
  have unnamed : none ≠ some node.name := (Option.some_ne_none node.name).symm
  have same : node.name = name := by
    cases outline with
    | fields named listed =>
      rw [ofValue?] at read
      have found := (ofFields?_name distinct.1 read).resolve_left unnamed
      exact (Value.string.inj (Option.some.inj (named.symm.trans found))).symm
    | named named unlisted =>
      rw [ofValue?] at read
      have found := (ofFields?_name distinct.1 read).resolve_left unnamed
      exact (Value.string.inj (Option.some.inj (named.symm.trans found))).symm
    | one | two =>
      cases read
      rfl
  rw [same, ← outline.eq_listedArguments]
  exact outline

end Node

/-! ## Documents as text -/

namespace Json

theorem isSkipped_never (stack : List Frame) : isSkipped (fun _ => false) stack = false := by
  unfold isSkipped
  split <;> rfl

theorem literal?_skipping {α : Type} [Inhabited α] {spelled : Option α} {found : α}
    (read : literal? false spelled = some found) (skipped : Bool) :
    literal? skipped spelled = some found := by
  have spells : spelled = some found := read
  cases skipped <;> simp [literal?, spells]

end Json

namespace Json.Reader

theorem begin?_skipping {token : Token} {stack : List Frame} {next : Reader}
    (read : begin? (fun _ => false) token stack = some next) (skips : String → Bool) :
    begin? skips token stack = some next := by
  unfold begin? at read ⊢
  simp only [isSkipped_never, Bool.false_or] at read
  cases token with
  | scalar spelled | string spelled =>
    obtain ⟨found, spells, rfl⟩ := Option.map_eq_some_iff.mp read
    exact Option.map_eq_some_iff.mpr ⟨found, literal?_skipping spells _, rfl⟩
  | openList | openDict =>
    rw [Option.ite_none_right_eq_some] at read ⊢
    exact ⟨Bool.or_eq_true_iff.mpr (.inr read.1), read.2⟩
  | _ => contradiction

theorem step_firstItem {token : Token} (goesOn : token ≠ .closeList) {skips : String → Bool}
    {stack : List Frame} :
    step skips (.firstItem stack) token = begin? skips token (.list [] :: stack) := by
  cases token with
  | closeList => contradiction
  | _ => rfl

/-- What is read without skipping anything is read in the same way if something is skipped. -/
theorem step_skipping {reader next : Reader} {token : Token}
    (read : step (fun _ => false) reader token = some next) (skips : String → Bool) :
    step skips reader token = some next := by
  cases reader with
  | value stack => exact begin?_skipping read skips
  | firstItem stack =>
    by_cases closes : token = .closeList
    · subst closes
      exact read
    · rw [step_firstItem closes] at read ⊢
      exact begin?_skipping read skips
  | firstKey stack =>
    cases token with
    | string spelled =>
      obtain ⟨key, spells, rfl⟩ := Option.map_eq_some_iff.mp read
      rw [isSkipped_never] at spells
      exact Option.map_eq_some_iff.mpr ⟨key, literal?_skipping spells _, rfl⟩
    | _ => exact read
  | nextKey fields stack =>
    cases token with
    | string spelled =>
      obtain ⟨key, spells, rfl⟩ := Option.map_eq_some_iff.mp read
      rw [isSkipped_never] at spells
      exact Option.map_eq_some_iff.mpr ⟨key, literal?_skipping spells _, rfl⟩
    | _ => exact read
  | _ => cases token <;> exact read

theorem run_skipping {reader last : Reader} {tokens : List Token}
    (read : run (fun _ => false) reader tokens = some last) (skips : String → Bool) :
    run skips reader tokens = some last := by
  induction tokens generalizing reader with
  | nil => exact read
  | cons token rest ih =>
    obtain ⟨next, first, later⟩ := Option.bind_eq_some_iff.mp read
    exact Option.bind_eq_some_iff.mpr ⟨next, step_skipping first skips, ih later⟩

end Json.Reader

theorem Json.readSkipping?_of_read? {text : List Char} {v : Value} (read : read? text = some v)
    (skips : String → Bool) : readSkipping? skips text = some v := by
  obtain ⟨tokens, split, read⟩ := Option.bind_eq_some_iff.mp read
  obtain ⟨reader, ran, done⟩ := Option.bind_eq_some_iff.mp read
  exact Option.bind_eq_some_iff.mpr ⟨tokens, split, Option.bind_eq_some_iff.mpr
    ⟨reader, Reader.run_skipping ran skips, done⟩⟩

namespace Node
variable {document : Value}

/-- Whether a document describes a tree shows in its outermost shape. An argument that is read as
no nested tree is the one literal that says what the document says there. -/
theorem outline_decides (distinct : document.Distinct) :
    ((∃ node, ofValue? document = some node) ↔ ∃ name items, Outline document name items) ∧
      (∀ node, ofValue? document = some node → ∃ items, Outline document node.name items ∧
        node.arguments.length = items.length ∧
        ∀ (i : Nat) (item : Value), items[i]? = some item →
          ∃ argument, node.arguments[i]? = some argument ∧
            (∀ child, argument = .nested child ↔ NestedForm item child ∨ PlacedForm item child) ∧
            ∀ literal, argument = .literal literal →
              item.Denotes literal ∧ ∀ other, item.Denotes other → other = literal) ∧
      ∀ text : String, Json.read? text.toList = some document →
        Node.read? .json text = ofValue? document := by
  refine ⟨?_, fun node read => ?_, fun text read => ?_⟩
  · rw [← Option.isSome_iff_exists, isSome_ofValue? distinct, describesTree_iff]
  · have outline := outline_of_ofValue? distinct read
    refine ⟨listedArguments document, outline, ?_, ?_⟩
    · rw [ofValue?_arguments read, List.length_map]
    · intro i item listed
      have distinct := outline.distinct distinct item (List.mem_of_getElem? listed)
      refine ⟨argumentOf item, ?_, argumentOf_eq_nested_iff item, fun literal isLiteral => ?_⟩
      · rw [ofValue?_arguments read, List.getElem?_map, listed, Option.map_some]
      · have same : literal = item.tidy := by
          rcases argumentOf_cases item with tidied | ⟨child, nested⟩
          · exact (Argument.literal.inj (tidied.symm.trans isLiteral)).symm
          · rw [nested] at isLiteral
            contradiction
        rw [same]
        exact ⟨Value.denotes_tidy distinct, fun other => Value.eq_tidy_of_denotes distinct⟩
  · rw [Node.read?, Json.readSkipping?_of_read? read]
    rfl

/-- Of two arrays of one item, only the second describes a tree. -/
theorem outline_decides_of_malformed :
    let malformed : Value := .array [.array [.string "isEmpty", .null]]
    let document : Value :=
      .array [.string "oneOf", .array [malformed, .array [.array [.string "isEmpty"]]]]
    let text := "[\"oneOf\", [[[\"isEmpty\", null]], [[\"isEmpty\"]]]]"
    let node : Node := ⟨"oneOf", [.literal malformed, .nested ⟨"isEmpty", []⟩]⟩
    document.Distinct ∧ Json.read? text.toList = some document ∧
      Node.read? .json text = some node ∧
      ∃ items, Outline document "oneOf" items ∧ node.arguments.length = items.length ∧
        ∀ (i : Nat) (item : Value), items[i]? = some item →
          ∃ argument, node.arguments[i]? = some argument ∧
            (∀ child, argument = .nested child ↔ NestedForm item child ∨ PlacedForm item child) ∧
            ∀ literal, argument = .literal literal →
              item.Denotes literal ∧ ∀ other, item.Denotes other → other = literal := by
  intro malformed document text node
  have distinct : document.Distinct := by
    simp [document, malformed, Value.Distinct, Value.DistinctItems]
  have parsed : Json.read? text.toList = some document := by cbv
  have described : ofValue? document = some node := rfl
  obtain ⟨-, arguments, reading⟩ := outline_decides distinct
  exact ⟨distinct, parsed, (reading text parsed).trans described, arguments node described⟩

end Node
end MatchTree
