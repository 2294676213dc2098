import MatchTree.Node.Document
import MatchTree.Proofs.Value.Order

/-!
How the arguments in a document are read.

A nested tree is to be written as an object of the one field `expander`, and everything else
is to be a literal. An array of one item that describes a tree is read as a nested tree as
well. That is the only departure, in every argument of every document.
-/

set_option autoImplicit false
namespace MatchTree.Node

/-- The form in which a nested tree is to be written. -/
def NestedForm (v : Value) (child : Node) : Prop :=
  ∃ inner, v = .object [("expander", inner)] ∧ ofValue? inner = some child

/-- The same form with its one field in a place instead of under a name. -/
def PlacedForm (v : Value) (child : Node) : Prop :=
  ∃ inner, v = .array [inner] ∧ ofValue? inner = some child

/-- Nested trees are those in the nested form; all else is a literal and stays what it is. -/
def ReadByRule (v : Value) (argument : Argument Node) : Prop :=
  (∀ child, argument = .nested child ↔ NestedForm v child) ∧
    ((∀ child, ¬ NestedForm v child) →
      argument = .literal v.tidy ∧ (v.Ordered → argument = .literal v))

/-- What a document lists as arguments. -/
def listedArguments : Value → List Value
  | .array [_, .array items] => items
  | .object fields =>
    match fields.lookup "arguments" with
    | some (.array items) => items
    | _ => []
  | _ => []

theorem argumentsOf_eq_map (items : List Value) : argumentsOf items = items.map argumentOf := by
  induction items with
  | nil => simp [argumentsOf]
  | cons item rest ih => simp [argumentsOf, ih]

theorem listedArguments_cons_of_ne {key : String} (v : Value) (rest : List (String × Value))
    (ne : key ≠ "arguments") :
    listedArguments (.object ((key, v) :: rest)) = listedArguments (.object rest) := by
  simp [listedArguments, List.lookup_cons, beq_false_of_ne (Ne.symm ne)]

/-- Arguments that were found stay, since a second list of them is refused. -/
theorem ofFields?_arguments {name? : Option String} {arguments? : Option (List (Argument Node))}
    {fields : List (String × Value)} {node : Node}
    (read : ofFields? name? arguments? fields = some node) :
    node.arguments = arguments?.getD ((listedArguments (.object fields)).map argumentOf) := by
  induction fields generalizing name? arguments? with
  | nil =>
    obtain ⟨name, rfl, rfl⟩ := Option.map_eq_some_iff.mp read
    rfl
  | cons field rest ih =>
    obtain ⟨key, v⟩ := field
    unfold ofFields? at read
    split at read
    · rename_i same
      -- the name, which may be given once
      have ne : key ≠ "arguments" := by simp [same]
      rw [listedArguments_cons_of_ne v rest ne]
      split at read
      · exact ih read
      · contradiction
    · split at read
      · rename_i same
        subst same
        -- the list, which may be given once as well
        split at read
        · rename_i items
          rw [ih read]
          simp [listedArguments, argumentsOf_eq_map]
        · contradiction
      · rename_i ne
        rw [listedArguments_cons_of_ne v rest ne]
        exact ih read

theorem ofValue?_arguments {document : Value} {node : Node}
    (read : ofValue? document = some node) :
    node.arguments = (listedArguments document).map argumentOf := by
  unfold ofValue? at read
  split at read
  · cases read
    rfl
  · cases read
    simp [listedArguments, argumentsOf_eq_map]
  · exact ofFields?_arguments read
  · contradiction

/-- An argument is a nested tree exactly where the document has one of the two forms. -/
theorem argumentOf_eq_nested_iff (v : Value) (child : Node) :
    argumentOf v = .nested child ↔ NestedForm v child ∨ PlacedForm v child := by
  unfold argumentOf NestedForm PlacedForm
  split
  · rename_i key inner
    by_cases same : key = "expander"
    · subst same
      cases described : ofValue? inner <;> simp [described]
    · simp [same]
  · rename_i inner
    cases described : ofValue? inner <;> simp [described]
  · rename_i notField notItem
    simp only [reduceCtorEq, false_iff, not_or, not_exists, not_and]
    exact ⟨fun inner same => absurd same (notField _ _), fun inner same => absurd same (notItem _)⟩

theorem argumentOf_cases (v : Value) :
    argumentOf v = .literal v.tidy ∨ ∃ child, argumentOf v = .nested child := by
  unfold argumentOf
  split
  · split
    · split
      · exact .inr ⟨_, rfl⟩
      · exact .inl rfl
    · exact .inl rfl
  · split
    · exact .inr ⟨_, rfl⟩
    · exact .inl rfl
  · exact .inl rfl

theorem argumentOf_eq_literal {v : Value} (unnamed : ∀ child, ¬ NestedForm v child)
    (unplaced : ∀ child, ¬ PlacedForm v child) : argumentOf v = .literal v.tidy := by
  rcases argumentOf_cases v with literal | ⟨child, nested⟩
  · exact literal
  · rcases (argumentOf_eq_nested_iff v child).mp nested with named | placed
    · exact absurd named (unnamed child)
    · exact absurd placed (unplaced child)

theorem NestedForm.not_placedForm {v : Value} {child other : Node} (named : NestedForm v child) :
    ¬ PlacedForm v other := by
  rintro ⟨inner, rfl, _⟩
  obtain ⟨_, same, _⟩ := named
  cases same

theorem readByRule_argumentOf_iff (v : Value) :
    ReadByRule v (argumentOf v) ↔ ∀ child, ¬ PlacedForm v child := by
  constructor
  · rintro ⟨nested, _⟩ child placed
    have read := (argumentOf_eq_nested_iff v child).mpr (.inr placed)
    exact ((nested child).mp read).not_placedForm placed
  · intro unplaced
    refine ⟨fun child => ?_, fun unnamed => ?_⟩
    · rw [argumentOf_eq_nested_iff]
      exact ⟨fun read => read.resolve_right (unplaced child), .inl⟩
    · have literal := argumentOf_eq_literal unnamed unplaced
      exact ⟨literal, fun order => by rw [literal, Value.tidy_of_ordered v order]⟩

/-- Every argument that a document lists is read by the rule, unless it has the placed form;
then it is the tree that its one item describes. -/
theorem arguments_readByRule_iff {document : Value} {node : Node}
    (read : ofValue? document = some node) :
    node.arguments.length = (listedArguments document).length ∧
      ∀ (i : Nat) (v : Value), (listedArguments document)[i]? = some v →
        ∃ argument, node.arguments[i]? = some argument ∧
          (ReadByRule v argument ↔ ∀ child, ¬ PlacedForm v child) ∧
          ∀ child, PlacedForm v child → argument = .nested child := by
  rw [ofValue?_arguments read]
  refine ⟨List.length_map _, fun i v listed => ⟨argumentOf v, ?_, ?_, fun child placed => ?_⟩⟩
  · rw [List.getElem?_map, listed, Option.map_some]
  · exact readByRule_argumentOf_iff v
  · exact (argumentOf_eq_nested_iff v child).mpr (.inr placed)

theorem arguments_readByRule_iff_of_three :
    let document : Value := .object [("arguments", .array [.int 5,
      .object [("expander", .array [.string "isEmpty"])], .array [.array [.string "isEmpty"]]]),
      ("name", .string "oneOf")]
    let node : Node :=
      ⟨"oneOf", [.literal (.int 5), .nested ⟨"isEmpty", []⟩, .nested ⟨"isEmpty", []⟩]⟩
    ofValue? document = some node ∧
      ∀ (i : Nat) (v : Value), (listedArguments document)[i]? = some v →
        ∃ argument, node.arguments[i]? = some argument ∧
          (ReadByRule v argument ↔ ∀ child, ¬ PlacedForm v child) ∧
          ∀ child, PlacedForm v child → argument = .nested child :=
  ⟨rfl, (arguments_readByRule_iff rfl).2⟩

/-- An array is read as a nested tree, although it is not in the nested form. -/
theorem array_read_as_nested :
    let item : Value := .array [.object [("name", .string "isEmpty")]]
    ofValue? (.object [("arguments", .array [item]), ("name", .string "oneOf")]) =
        some ⟨"oneOf", [.nested ⟨"isEmpty", []⟩]⟩ ∧
      ¬ ReadByRule item (.nested ⟨"isEmpty", []⟩) := by
  refine ⟨rfl, fun ⟨nested, _⟩ => ?_⟩
  obtain ⟨_, same, _⟩ := (nested ⟨"isEmpty", []⟩).mp rfl
  cases same

end MatchTree.Node
