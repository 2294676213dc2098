import MatchTree.Proofs.Json.Lexing
import MatchTree.CommandLine.Basic
import MatchTree.Json.Reader

/-!
A value that was written as JSON is read back, as long as it nests no deeper than the reader
allows. Only a float may come back as another.
-/

set_option autoImplicit false
namespace MatchTree

namespace Value

mutual

/-- How many arrays and objects lie inside one another. -/
def nesting : Value → Nat
  | .array items => nestingItems items + 1
  | .object fields => nestingFields fields + 1
  | _ => 0

def nestingItems : List Value → Nat
  | [] => 0
  | item :: rest => max item.nesting (nestingItems rest)

def nestingFields : List (String × Value) → Nat
  | [] => 0
  | (_, value) :: rest => max value.nesting (nestingFields rest)

end

end Value

namespace Json.Reader

/-- Nothing is skipped. -/
abbrev runAll : Reader → List Token → Option Reader := run fun _ => false

theorem isSkipped_none (stack : List Frame) : isSkipped (fun _ => false) stack = false := by
  rw [isSkipped]
  split <;> rfl

/-- Inside these containers the tokens are read as one value, unless it nests too deep. -/
def Reads (tokens : List Token) (v : Value) (depth : Nat) : Prop :=
  ∀ stack rest, stack.length ≤ maxDepth → runAll (.value stack) (tokens ++ rest) =
    if stack.length + depth ≤ maxDepth then runAll (complete v stack) rest else none

variable {stack : List Frame} {rest : List Token}

theorem runAll_scalar (v : Value) :
    runAll (.value stack) (.scalar (some v) :: rest) = runAll (complete v stack) rest := by
  simp [run, step, begin?, isSkipped_none, literal?]

theorem runAll_string (s : String) :
    runAll (.value stack) (.string (some s) :: rest) = runAll (complete (.string s) stack) rest := by
  simp [run, step, begin?, isSkipped_none, literal?]

theorem runAll_openList :
    runAll (.value stack) (.openList :: rest) =
      if stack.length < maxDepth then runAll (.firstItem stack) rest else none := by
  simp only [run, List.foldlM_cons, step, begin?, isSkipped_none, Bool.false_or, decide_eq_true_eq]
  split <;> rfl

theorem runAll_openDict :
    runAll (.value stack) (.openDict :: rest) =
      if stack.length < maxDepth then runAll (.firstKey stack) rest else none := by
  simp only [run, List.foldlM_cons, step, begin?, isSkipped_none, Bool.false_or, decide_eq_true_eq]
  split <;> rfl

theorem runAll_nextKey (fields : List (String × Value)) (key : String) :
    runAll (.nextKey fields stack) (.string (some key) :: .colon :: rest) =
      runAll (.value (.dict fields key :: stack)) rest := by
  simp [run, step, isSkipped_none, literal?]

/-- The first item of a list begins like any other, as a value does not begin with a bracket
that closes. -/
theorem runAll_firstItem (v : Value) :
    runAll (.firstItem stack) (tokens v ++ rest) =
      runAll (.value (.list [] :: stack)) (tokens v ++ rest) := by
  cases v <;> rfl

theorem room_for_both {size first more : Nat} :
    size + (max first more + 1) ≤ maxDepth ↔
      size + 1 + first ≤ maxDepth ∧ size + (more + 1) ≤ maxDepth := by
  omega

open Value in
/-- The items of a list, after those before them and up to the end of the list. -/
theorem runAll_items (item : Value) (others : List Value)
    (each : ∀ v ∈ item :: others, Reads (tokens v) v.reread v.nesting) (items : List Value)
    (room : stack.length < maxDepth) :
    runAll (.value (.list items :: stack)) (itemTokens (item :: others) ++ .closeList :: rest) =
      if stack.length + (nestingItems (item :: others) + 1) ≤ maxDepth then
        runAll (complete (.array (items.reverse ++ rereadItems (item :: others))) stack) rest
      else none := by
  -- on the items after the first; what has been read stands in reverse, the latest in front
  induction others generalizing item items with
  | nil =>
    have first := each item (List.mem_singleton_self item) (.list items :: stack)
    have size : stack.length + (max item.nesting 0 + 1) = stack.length + 1 + item.nesting := by
      omega
    rw [itemTokens, first _ room, nestingItems, nestingItems, size, rereadItems, rereadItems,
      ← List.reverse_cons]
    rfl
  | cons next others ih =>
    obtain ⟨first, more⟩ := List.forall_mem_cons.mp each
    have begun := first (.list items :: stack)
    rw [itemTokens_cons_cons, List.append_assoc, begun _ room, List.length_cons, nestingItems]
    simp only [room_for_both, ite_and]
    congr 1
    show runAll (.value (.list (item.reread :: items) :: stack))
      (itemTokens (next :: others) ++ .closeList :: rest) = _
    rw [ih next more, List.reverse_cons, List.append_assoc]
    rfl

open Value in
/-- The fields of an object, after those before them and up to the end of the object. -/
theorem runAll_fields (field : String × Value) (others : List (String × Value))
    (each : ∀ f ∈ field :: others, Reads (tokens f.2) f.2.reread f.2.nesting)
    (fields : List (String × Value)) (room : stack.length < maxDepth) :
    runAll (.nextKey fields stack) (fieldTokens (field :: others) ++ .closeDict :: rest) =
      if stack.length + (nestingFields (field :: others) + 1) ≤ maxDepth then
        runAll (complete (.object (fields.reverse ++ rereadFields (field :: others))) stack) rest
      else none := by
  induction others generalizing field fields with
  | nil =>
    have first := each field (List.mem_singleton_self field) (.dict fields field.1 :: stack)
    have size : stack.length + (max field.2.nesting 0 + 1) = stack.length + 1 + field.2.nesting := by
      omega
    show runAll (.nextKey fields stack) (.string _ :: .colon :: (tokens field.2 ++ _)) = _
    rw [runAll_nextKey, first _ room, nestingFields, nestingFields, size, rereadFields,
      rereadFields, ← List.reverse_cons]
    rfl
  | cons next others ih =>
    obtain ⟨first, more⟩ := List.forall_mem_cons.mp each
    have begun := first (.dict fields field.1 :: stack)
    rw [fieldTokens_cons_cons, List.cons_append, List.cons_append, List.append_assoc,
      runAll_nextKey, begun _ room, List.length_cons, nestingFields]
    simp only [room_for_both, ite_and]
    congr 1
    show runAll (.nextKey ((field.1, field.2.reread) :: fields) stack)
      (fieldTokens (next :: others) ++ .closeDict :: rest) = _
    rw [ih next more, List.reverse_cons, List.append_assoc]
    rfl

/-- The first key of an object stands like any other. -/
theorem runAll_firstKey (field : String × Value) (others : List (String × Value)) :
    runAll (.firstKey stack) (fieldTokens (field :: others) ++ rest) =
      runAll (.nextKey [] stack) (fieldTokens (field :: others) ++ rest) := by
  cases others <;> rfl

theorem runAll_firstItems (item : Value) (others : List Value) :
    runAll (.firstItem stack) (itemTokens (item :: others) ++ rest) =
      runAll (.value (.list [] :: stack)) (itemTokens (item :: others) ++ rest) := by
  cases others with
  | nil => exact runAll_firstItem item
  | cons next others =>
    rw [itemTokens_cons_cons, List.append_assoc]
    exact runAll_firstItem item

/-- A value is read from its tokens wherever it stands. -/
theorem reads_tokens (v : Value) : Reads (tokens v) v.reread v.nesting := by
  intro stack rest room
  induction v generalizing stack rest with
  | null | bool | int | float => exact (runAll_scalar _).trans (if_pos room).symm
  | string s => exact (runAll_string s).trans (if_pos room).symm
  | array items ih =>
    -- one more container is open for the items, so each of them may nest one level less
    rw [tokens, List.cons_append, runAll_openList, List.append_assoc, Value.nesting]
    split
    case isFalse full => rw [if_neg (by omega)]
    case isTrue deeper =>
      cases items with
      | nil => exact (if_pos (Nat.succ_le_of_lt deeper)).symm
      | cons item others =>
        rw [runAll_firstItems, List.singleton_append, runAll_items item others ih [] deeper]
        rfl
  | object fields ih =>
    rw [tokens, List.cons_append, runAll_openDict, List.append_assoc, Value.nesting]
    split
    case isFalse full => rw [if_neg (by omega)]
    case isTrue deeper =>
      cases fields with
      | nil => exact (if_pos (Nat.succ_le_of_lt deeper)).symm
      | cons field others =>
        rw [runAll_firstKey, List.singleton_append, runAll_fields field others ih [] deeper]
        rfl

end Json.Reader

/-- What is written is read, as long as it is not too deep. -/
theorem Json.read?_chars (v : Value) :
    Json.read? (Json.chars v) = if v.nesting ≤ maxDepth then some v.reread else none := by
  have ran := Reader.reads_tokens v [] [] (Nat.zero_le _)
  rw [List.append_nil, List.length_nil, Nat.zero_add] at ran
  simp only [read?, readSkipping?, tokens?_chars, Option.bind_eq_bind, Option.bind_some, ran]
  split <;> rfl

namespace Invocation

theorem readValue_text_of_nesting (wording : Wording) {v : Value} (order : v.Ordered)
    (shallow : v.nesting ≤ 127) : readValue wording (Json.text v) = .ok v.reread := by
  have fits : v.nesting ≤ Json.maxDepth := shallow
  have same : v.reread.tidy = v.reread := v.reread.tidy_of_ordered (v.ordered_reread order)
  rw [readValue, Json.text, String.toList_ofList, Json.read?_chars v, if_pos fits]
  exact congrArg Except.ok same

/-- A value that nests at most 127 deep comes back from its text, with `null` for each float that
is no finite number, and with what its decimal is read as for each that is one. So it comes back as
it was exactly if each of these is read as itself, which is sure of a small coefficient and a power
of ten near to one. The text of a deeper value is refused. -/
theorem readValue_text (wording : Wording) {v : Value} (order : v.Ordered) :
    (v.nesting ≤ 127 → readValue wording (Json.text v) = .ok v.reread ∧
      (readValue wording (Json.text v) = .ok v.inJson ↔ v.Stable) ∧
      (v.Short → readValue wording (Json.text v) = .ok v.inJson)) ∧
    (128 ≤ v.nesting → ∃ reason, readValue wording (Json.text v) = .error reason) := by
  constructor
  · intro shallow
    have read := readValue_text_of_nesting wording order shallow
    have stable : readValue wording (Json.text v) = .ok v.inJson ↔ v.Stable := by
      rw [read, Except.ok.injEq, v.reread_eq_inJson_iff]
    exact ⟨read, stable, fun short => stable.mpr short.stable⟩
  · intro deep
    rw [readValue, Json.text, String.toList_ofList, Json.read?_chars v,
      if_neg (Nat.not_le.mpr deep : ¬ v.nesting ≤ Json.maxDepth)]
    exact ⟨_, rfl⟩

/-- Arrays inside one another, and none in the innermost. -/
def tower : Nat → Value
  | 0 => .array []
  | height + 1 => .array [tower height]

theorem ordered_tower (height : Nat) : (tower height).Ordered := by
  induction height with
  | zero => trivial
  | succ height ih => exact ⟨ih, trivial⟩

theorem nesting_tower (height : Nat) : (tower height).nesting = height + 1 := by
  induction height with
  | zero => rfl
  | succ height ih => rw [tower, Value.nesting, Value.nestingItems, ih]; rfl

/-- Readers that give no reasons. -/
def silent : Wording := ⟨fun _ _ => "", fun _ _ => "", fun _ => ""⟩

theorem readValue_text_of_limits :
    let limits (x : Value) : Value := .object
      [("", .array [.int Int64.minValue, .int Int64.maxValue, .float (.finite (.zero true)), x]),
        ("\x01\"", .string "\\\n")]
    (limits (.float .nan)).Ordered ∧ (tower 127).Ordered ∧
      (limits (.float .nan)).nesting ≤ 127 ∧ (limits (.float .nan)).Short ∧
      128 ≤ (tower 127).nesting ∧
      readValue silent (Json.text (limits (.float .nan))) = .ok (limits .null) ∧
      ∃ reason, readValue silent (Json.text (tower 127)) = .error reason := by
  intro limits
  have order : (limits (.float .nan)).Ordered := by
    simp only [limits, Value.Ordered, Value.OrderedItems, Value.OrderedFields, Table.Ascending]
    decide
  have shallow : (limits (.float .nan)).nesting ≤ 127 := by decide
  have zero : (Finite.zero true).written = ⟨true, 0, -1⟩ := by decide +kernel
  have short : (limits (.float .nan)).Short := by
    simp [limits, Value.Short, Value.Throughout, Value.ThroughoutItems, Value.ThroughoutFields,
      zero]
  have deep : 128 ≤ (tower 127).nesting := Nat.le_of_eq (nesting_tower 127).symm
  exact ⟨order, ordered_tower 127, shallow, short, deep,
    ((readValue_text silent order).1 shallow).2.2 short,
    (readValue_text silent (ordered_tower 127)).2 deep⟩

/-- A double that is read as the next one. -/
def moving : Finite :=
  ⟨false, 5071238236471782, 1025, by decide, by decide, .inr (by decide)⟩

/-- Another reader of the same text, which rounds once, gives the double itself. -/
theorem readValue_text_moves :
    Json.text (.float (.finite moving)) = "9.008328725584715" ∧
      readValue silent "9.008328725584715" ≠ .ok (.float (.finite moving)) ∧
      Yaml.float? "9.008328725584715" = some (.finite moving) := by
  have written : Json.text (.float (.finite moving)) = "9.008328725584715" := by decide +kernel
  have other : moving.reread ≠ moving := by decide +kernel
  have read := readValue_text_of_nesting silent (v := .float (.finite moving)) trivial
    (Nat.zero_le 127)
  refine ⟨written, ?_, by decide +kernel⟩
  rw [← written, read]
  intro same
  exact other (Double.finite.inj (Value.float.inj (Except.ok.inj same)))

end Invocation
end MatchTree
