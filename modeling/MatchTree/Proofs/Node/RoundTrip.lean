import MatchTree.Proofs.Node.NestedForm
import MatchTree.Proofs.Value.Document

/-!
Trees written as documents and read back.

Literals and nested trees share one space of documents. So a tree comes back unless one of its
literals reads as a nested tree, or holds a float that no document can hold.
-/

set_option autoImplicit false
namespace MatchTree
namespace Value

/-- The shape of a tree: a name, and a list of arguments or none. -/
def describesTree : Value → Bool
  | .object fields =>
    (Table.get? fields "name").any isString &&
      (Table.get? fields "arguments").all fun v => v.asArray.isSome
  | .array [.string _] | .array [.string _, .array _] => true
  | _ => false

/-- The shape of a nested tree: a tree as the only field `expander` or as the only item. -/
def describesNested : Value → Bool
  | .object [(key, inner)] => key == "expander" && inner.describesTree
  | .array [inner] => inner.describesTree
  | _ => false

/-- Putting fields in order leaves each where it is looked for. -/
theorem describesTree_tidy {v : Value} (distinct : v.Distinct) :
    v.tidy.describesTree = v.describesTree := by
  cases v with
  | object fields =>
    simp only [tidy, describesTree, get?_ofList_tidyFields distinct.1]
    cases Table.get? fields "name" <;> cases Table.get? fields "arguments" <;> simp
  | array items =>
    match items with
    | [] => rfl
    | [first] => cases first <;> rfl
    | [first, second] => cases first <;> cases second <;> rfl
    | first :: second :: _ :: _ => cases first <;> cases second <;> rfl
  | _ => rfl

/-- Putting fields in order makes no nested tree where there was none. -/
theorem describesNested_tidy {v : Value} (distinct : v.Distinct) :
    v.tidy.describesNested = v.describesNested := by
  cases v with
  | object fields =>
    match fields, distinct with
    | [], _ => rfl
    | [(key, inner)], ⟨_, distinct, _⟩ =>
      exact congrArg (key == "expander" && ·) (describesTree_tidy distinct)
    | first :: second :: rest, ⟨nodup, _⟩ =>
      -- no field is lost, so there are still too many
      have length : (Table.ofList (tidyFields (first :: second :: rest))).length =
          (first :: second :: rest).length := by
        rw [Table.length_ofList (by rwa [keys_tidyFields]), length_tidyFields]
      rw [tidy]
      match Table.ofList (tidyFields (first :: second :: rest)), length with
      | _ :: _ :: _, _ => rfl
  | array items =>
    match items, distinct with
    | [], _ => rfl
    | [_], ⟨distinct, _⟩ => exact describesTree_tidy distinct
    | _ :: _ :: _, _ => rfl
  | _ => rfl

end Value

namespace Node

/-! ## Shapes -/

/-- A field is to be found if it has not been read yet, and not to be found again if it has. -/
theorem isSome_ofFields? {name? : Option String} {arguments? : Option (List (Argument Node))}
    {fields : List (String × Value)} (distinct : (Table.keys fields).Nodup) :
    (ofFields? name? arguments? fields).isSome =
      ((if name?.isSome then (Table.get? fields "name").isNone
        else (Table.get? fields "name").any Value.isString) &&
      (if arguments?.isSome then (Table.get? fields "arguments").isNone
        else (Table.get? fields "arguments").all fun v => v.asArray.isSome)) := by
  induction fields generalizing name? arguments? with
  | nil => cases name? <;> cases arguments? <;> rfl
  | cons field rest ih =>
    obtain ⟨key, v⟩ := field
    obtain ⟨absent, others⟩ := List.nodup_cons.mp distinct
    have gone : Table.get? rest key = none := Table.get?_eq_none_iff.mpr absent
    unfold ofFields?
    rw [Table.get?_cons, Table.get?_cons]
    -- each of the two fields is either awaited, and then its value has to fit, or refused
    by_cases isName : key = "name"
    · subst isName
      cases v <;> cases name? <;> simp [ih others, gone, Value.isString]
    · by_cases isList : key = "arguments"
      · subst isList
        cases v <;> cases arguments? <;> simp [ih others, gone, Value.asArray]
      · simp [ih others, isName, isList, Ne.symm isName, Ne.symm isList]

/-- A document describes a tree exactly if it has the shape of one. -/
theorem isSome_ofValue? {v : Value} (distinct : v.Distinct) :
    (ofValue? v).isSome = v.describesTree := by
  cases v with
  | object fields =>
    rw [ofValue?, isSome_ofFields? distinct.1]
    rfl
  | array items =>
    match items with
    | [] => rfl
    | [first] => cases first <;> rfl
    | [first, second] => cases first <;> cases second <;> rfl
    | first :: second :: _ :: _ => cases first <;> cases second <;> rfl
  | _ => rfl

/-- An argument is read as a nested tree exactly if it has the shape of one. -/
theorem describesNested_iff {v : Value} (distinct : v.Distinct) :
    v.describesNested = true ↔ ∃ child, argumentOf v = .nested child := by
  have forms : (∃ child, argumentOf v = .nested child) ↔
      ∃ inner, (v = .object [("expander", inner)] ∨ v = .array [inner]) ∧
        (ofValue? inner).isSome = true := by
    simp only [argumentOf_eq_nested_iff, NestedForm, PlacedForm, Option.isSome_iff_exists]
    constructor
    · rintro ⟨child, ⟨inner, named, read⟩ | ⟨inner, placed, read⟩⟩
      · exact ⟨inner, .inl named, child, read⟩
      · exact ⟨inner, .inr placed, child, read⟩
    · rintro ⟨inner, named | placed, child, read⟩
      · exact ⟨child, .inl ⟨inner, named, read⟩⟩
      · exact ⟨child, .inr ⟨inner, placed, read⟩⟩
  rw [forms]
  constructor
  · intro nested
    unfold Value.describesNested at nested
    split at nested
    · rename_i key inner
      obtain ⟨named, tree⟩ := Bool.and_eq_true_iff.mp nested
      rw [beq_iff_eq.mp named]
      exact ⟨inner, .inl rfl, (isSome_ofValue? distinct.2.1).trans tree⟩
    · rename_i inner
      exact ⟨inner, .inr rfl, (isSome_ofValue? distinct.1).trans nested⟩
    · contradiction
  · rintro ⟨inner, rfl | rfl, read⟩
    · rwa [isSome_ofValue? distinct.2.1] at read
    · rwa [isSome_ofValue? distinct.1] at read

theorem argumentOf_of_not_describesNested {v : Value} (distinct : v.Distinct)
    (other : v.describesNested = false) : argumentOf v = .literal v.tidy := by
  refine (argumentOf_cases v).resolve_right fun nested => ?_
  rw [← describesNested_iff distinct, other] at nested
  contradiction

/-! ## Writing and reading back -/

mutual

/-- Every literal in the tree. -/
def literals : Node → List Value
  | ⟨_, arguments⟩ => literalsOfArguments arguments

def literalsOfArguments : List (Argument Node) → List Value
  | [] => []
  | .literal v :: rest => v :: literalsOfArguments rest
  | .nested child :: rest => child.literals ++ literalsOfArguments rest

end

/-- Every object in a literal lists its keys in order. -/
def Ordered (node : Node) : Prop := ∀ v ∈ node.literals, v.Ordered

/-- The tree can be read from its document, and what is read equals it. -/
def RoundTrips (node : Node) : Prop :=
  ∃ back, ofValue? node.toValue.inJson = some back ∧ back.equals node = true

/-- A literal that a document can hold, and that is no nested tree there. -/
def Plain (v : Value) : Prop := v.isFinite = true ∧ v.inJson.describesNested = false

theorem ofValue?_inJson_toValue (name : String) (arguments : List (Argument Node)) :
    ofValue? (toValue ⟨name, arguments⟩).inJson =
      some ⟨name, argumentsOf (Value.inJsonItems (argumentValues arguments))⟩ := by
  rw [toValue]
  rfl

theorem roundTrips_iff_equals {name : String} {arguments : List (Argument Node)} :
    RoundTrips ⟨name, arguments⟩ ↔
      equalArguments (argumentsOf (Value.inJsonItems (argumentValues arguments))) arguments =
        true := by
  rw [RoundTrips, ofValue?_inJson_toValue]
  constructor
  · rintro ⟨back, same, equal⟩
    obtain rfl := Option.some.inj same
    exact (Bool.and_eq_true_iff.mp equal).2
  · exact fun equal => ⟨_, rfl, Bool.and_eq_true_iff.mpr ⟨beq_self_eq_true name, equal⟩⟩

/-- A literal comes back exactly if it is plain. -/
theorem equalArguments_literal {v : Value} (order : v.Ordered)
    (read written : List (Argument Node)) :
    equalArguments (argumentOf v.inJson :: read) (.literal v :: written) = true ↔
      Plain v ∧ equalArguments read written = true := by
  have order := Value.ordered_inJson v order
  have distinct := Value.distinct_of_ordered _ order
  cases shape : v.inJson.describesNested with
  | true =>
    obtain ⟨child, nested⟩ := (describesNested_iff distinct).mp shape
    simp [nested, equalArguments, Plain, shape]
  | false =>
    rw [argumentOf_of_not_describesNested distinct shape, Value.tidy_of_ordered _ order,
      equalArguments, Value.inJson_equals, Bool.and_eq_true_iff, Plain, shape]
    simp

/-- A nested tree comes back exactly if it does so by itself. -/
theorem equalArguments_nested (child : Node) (read written : List (Argument Node)) :
    equalArguments (argumentOf (Value.object [("expander", child.toValue)]).inJson :: read)
        (.nested child :: written) = true ↔
      RoundTrips child ∧ equalArguments read written = true := by
  obtain ⟨name, arguments⟩ := child
  have nested : argumentOf (Value.object [("expander", toValue ⟨name, arguments⟩)]).inJson =
      .nested ⟨name, argumentsOf (Value.inJsonItems (argumentValues arguments))⟩ :=
    (argumentOf_eq_nested_iff _ _).mpr (.inl ⟨_, rfl, ofValue?_inJson_toValue name arguments⟩)
  rw [nested, equalArguments, Bool.and_eq_true_iff, roundTrips_iff_equals, equals,
    beq_self_eq_true, Bool.true_and]

mutual

theorem roundTrips_iff_plain : ∀ node : Node, node.Ordered →
    (node.RoundTrips ↔ ∀ v ∈ node.literals, Plain v)
  | ⟨_, arguments⟩, order => by
    rw [roundTrips_iff_equals]
    exact equalArguments_iff_plain arguments order

theorem equalArguments_iff_plain : ∀ arguments : List (Argument Node),
    (∀ v ∈ literalsOfArguments arguments, v.Ordered) →
      (equalArguments (argumentsOf (Value.inJsonItems (argumentValues arguments))) arguments =
        true ↔ ∀ v ∈ literalsOfArguments arguments, Plain v)
  | [], _ => by
    simp [argumentValues, Value.inJsonItems, argumentsOf, equalArguments, literalsOfArguments]
  | .literal v :: rest, order => by
    obtain ⟨first, others⟩ := List.forall_mem_cons.mp order
    rw [argumentValues, Value.inJsonItems, argumentsOf, equalArguments_literal first,
      equalArguments_iff_plain rest others, literalsOfArguments, List.forall_mem_cons]
  | .nested child :: rest, order => by
    obtain ⟨first, others⟩ := List.forall_mem_append.mp order
    rw [argumentValues, Value.inJsonItems, argumentsOf, equalArguments_nested,
      roundTrips_iff_plain child first, equalArguments_iff_plain rest others,
      literalsOfArguments, List.forall_mem_append]

end

/-! ## Trees that were read -/

theorem isDocument_of_listed {document v : Value} (proper : document.IsDocument)
    (listed : v ∈ listedArguments document) : v.IsDocument := by
  unfold listedArguments at listed
  split at listed
  · exact (proper.item (List.mem_cons_of_mem _ List.mem_cons_self)).item listed
  · split at listed
    · rename_i found
      exact (proper.field (Table.mem_of_get? found)).item listed
    · contradiction
  · contradiction

theorem isDocument_of_nested {document : Value} (proper : document.IsDocument) {child : Node}
    (nested : argumentOf document = .nested child) :
    ∃ inner : Value, inner.IsDocument ∧ ofValue? inner = some child := by
  rcases (argumentOf_eq_nested_iff document child).mp nested with
    ⟨inner, rfl, read⟩ | ⟨inner, rfl, read⟩
  · exact ⟨inner, proper.field List.mem_cons_self, read⟩
  · exact ⟨inner, proper.item List.mem_cons_self, read⟩

/-- A literal that was read from a document. -/
def IsRead (v : Value) : Prop := ∃ listed : Value, listed.IsDocument ∧ argumentOf listed = .literal v

mutual

/-- By induction on the tree: what is nested in it was read from within the document. -/
theorem literals_read : ∀ (node : Node) (document : Value), document.IsDocument →
    ofValue? document = some node → ∀ v ∈ node.literals, IsRead v
  | ⟨_, arguments⟩, document, proper, read =>
    literalsOfArguments_read arguments (listedArguments document)
      (fun _ listed => isDocument_of_listed proper listed) (ofValue?_arguments read)

theorem literalsOfArguments_read : ∀ (arguments : List (Argument Node)) (listed : List Value),
    (∀ v ∈ listed, v.IsDocument) → arguments = listed.map argumentOf →
      ∀ v ∈ literalsOfArguments arguments, IsRead v
  | [], _, _, _, _, member => nomatch member
  | .literal v :: rest, [], _, same, _, _ => by contradiction
  | .literal v :: rest, listed :: others, proper, same, u, member => by
    obtain ⟨first, later⟩ := List.forall_mem_cons.mp proper
    obtain ⟨here, there⟩ := List.cons.inj same
    rcases List.mem_cons.mp member with rfl | member
    · exact ⟨listed, first, here.symm⟩
    · exact literalsOfArguments_read rest others later there u member
  | .nested child :: rest, [], _, same, _, _ => by contradiction
  | .nested child :: rest, listed :: others, proper, same, u, member => by
    obtain ⟨first, later⟩ := List.forall_mem_cons.mp proper
    obtain ⟨here, there⟩ := List.cons.inj same
    rcases List.mem_append.mp member with inside | member
    · obtain ⟨inner, proper, read⟩ := isDocument_of_nested first here.symm
      exact literals_read child inner proper read u inside
    · exact literalsOfArguments_read rest others later there u member

end

/-- What was read as a literal once is so again. -/
theorem IsRead.plain {v : Value} (read : IsRead v) : v.Ordered ∧ Plain v := by
  obtain ⟨listed, proper, literal⟩ := read
  cases shape : listed.describesNested with
  | true =>
    obtain ⟨child, nested⟩ := (describesNested_iff proper.distinct).mp shape
    rw [nested] at literal
    contradiction
  | false =>
    rw [argumentOf_of_not_describesNested proper.distinct shape] at literal
    obtain rfl := Argument.literal.inj literal
    have finite := Value.isFinite_tidy listed proper.finite
    refine ⟨Value.ordered_tidy listed, finite, ?_⟩
    rw [Value.inJson_of_isFinite _ finite, Value.describesNested_tidy proper.distinct, shape]

/-- Which trees come back from their documents. -/
theorem roundTrips_exactly :
    (∀ node : Node, node.Ordered →
      (node.RoundTrips ↔
        (∀ v ∈ node.literals, v.isFinite = true) ∧
          ∀ v ∈ node.literals, v.inJson.describesNested = false)) ∧
      ∀ (document : Value) (node : Node), document.IsDocument → ofValue? document = some node →
        node.Ordered ∧ node.RoundTrips := by
  constructor
  · intro node order
    rw [roundTrips_iff_plain node order]
    exact ⟨fun plain => ⟨fun v member => (plain v member).1, fun v member => (plain v member).2⟩,
      fun ⟨finite, other⟩ v member => ⟨finite v member, other v member⟩⟩
  · intro document node proper read
    have literals := literals_read node document proper read
    have order : node.Ordered := fun v member => (literals v member).plain.1
    exact ⟨order, (roundTrips_iff_plain node order).mpr fun v member => (literals v member).plain.2⟩

theorem roundTrips_exactly_of_two :
    let written : Node :=
      ⟨"oneOf", [.literal (.int 5), .nested ⟨"match", [.literal (.array [.array [.string "a"]])]⟩]⟩
    let document : Value := .array [.string "oneOf", .array [
      .object [("expander", .array [.string "isEmpty"])], .object [("b", .null), ("a", .int 5)]]]
    let read : Node :=
      ⟨"oneOf", [.nested ⟨"isEmpty", []⟩, .literal (.object [("a", .int 5), ("b", .null)])]⟩
    written.Ordered ∧ ¬ written.RoundTrips ∧
      document.IsDocument ∧ ofValue? document = some read ∧ read.RoundTrips := by
  intro written document read
  have order : written.Ordered := by
    simp [written, Ordered, literals, literalsOfArguments, Value.Ordered, Value.OrderedItems]
  have proper : document.IsDocument := by
    refine ⟨rfl, ?_⟩
    simp [document, Value.Distinct, Value.DistinctItems, Value.DistinctFields, Table.keys]
  have described : ofValue? document = some read := rfl
  refine ⟨order, fun back => ?_, proper, described,
    (roundTrips_exactly.2 document read proper described).2⟩
  obtain ⟨_, other⟩ := (roundTrips_exactly.1 written order).mp back
  -- the array in the array has the shape of a nested tree
  exact absurd (other (.array [.array [.string "a"]])
    (by simp [written, literals, literalsOfArguments])) (by decide)

/-- Where a key is listed twice, what is left of the fields may read as a nested tree. -/
example : ofValue? (.array [.string "oneOf", .array [
      .object [("expander", .null), ("expander", .array [.string "isEmpty"])]]]) =
    some ⟨"oneOf", [.literal (.object [("expander", .array [.string "isEmpty"])])]⟩ := rfl

end Node
end MatchTree
