import MatchTree.Proofs.Structure.Agreement

/-!
What the message of a failed comparison tells.

It names a way into both values, turn by turn, and then what is wrong at its end. That defect is
there, and it is the first: along the keys of the pattern in ascending order, and along indices,
every part of the pattern before it is also in the value, and agrees with it.
-/

set_option autoImplicit false
namespace MatchTree

/-- One step on the way into a value. -/
inductive Turn
  | key (key : String)
  | index (index : Nat)
  deriving DecidableEq, Repr

/-- How messages tell a turn. -/
def Turn.text : Turn → String
  | key k => s!"at key {inQuotes k}: "
  | index i => s!"at index {i}: "

/-- The order in which the parts of one value are looked at. -/
inductive Turn.Before : Turn → Turn → Prop
  | key {k l : String} (below : k < l) : Before (.key k) (.key l)
  | index {i j : Nat} (below : i < j) : Before (.index i) (.index j)

/-- One way turns off before the other does. What lies at its end is done with when the other is
taken; the values that a way leads through are not. -/
inductive Precedes : List Turn → List Turn → Prop
  | here {turn other : Turn} (before : turn.Before other) (rest rest' : List Turn) :
    Precedes (turn :: rest) (other :: rest')
  | later (turn : Turn) {rest rest' : List Turn} (precedes : Precedes rest rest') :
    Precedes (turn :: rest) (turn :: rest')

namespace Value

/-- Where one turn leads. -/
def part? : Value → Turn → Option Value
  | .object fields, .key key => Table.get? fields key
  | .array items, .index index => items[index]?
  | _, _ => none

/-- Where a way leads. -/
def partAt? (v : Value) : List Turn → Option Value
  | [] => some v
  | turn :: rest => (v.part? turn).bind fun part => part.partAt? rest

end Value

namespace Structure
variable {strict : Bool}

/-- What can be wrong with a value itself, and the text that says so. -/
inductive Defect (strict : Bool) : Value → Value → String → Prop
  | missingKey {expected found : List (String × Value)} {key : String}
    (wanted : key ∈ Table.keys expected) (missing : key ∉ Table.keys found)
    (smaller : ∀ field ∈ expected, field.1 < key →
      ∃ v, Table.get? found field.1 = some v ∧ Agrees strict field.2 v) :
    Defect strict (.object expected) (.object found)
      s!"missing key {inQuotes key} in {(Value.object found).text}"
  | extraKey {expected found : List (String × Value)} {key : String} (isStrict : strict = true)
    (all : ∀ field ∈ expected, ∃ v, Table.get? found field.1 = some v ∧ Agrees strict field.2 v)
    (there : key ∈ Table.keys found) (unnamed : key ∉ Table.keys expected)
    (smallest : ∀ other ∈ Table.keys found, other ∉ Table.keys expected →
      other = key ∨ key < other) :
    Defect strict (.object expected) (.object found)
      s!"unexpected key {inQuotes key} in {(Value.object found).text}"
  | wrongLength {patterns items : List Value} (ne : items.length ≠ patterns.length) :
    Defect strict (.array patterns) (.array items)
      s!"array {(Value.array items).text} has {items.length} elements, expected {patterns.length}"
  | differs {pattern actual : Value} (whole : byParts pattern actual = false)
    (unequal : pattern.looselyEquals actual = false) :
    Defect strict pattern actual s!"value {actual.text} does not match {pattern.text}"

/-- The way to the first defect, and what is said of it. -/
structure FirstDefect (strict : Bool) (pattern actual : Value) (way : List Turn) (told : String) :
    Prop where
  defect : ∃ p a, pattern.partAt? way = some p ∧ actual.partAt? way = some a ∧
    Defect strict p a told
  first : ∀ other p, Precedes other way → pattern.partAt? other = some p →
    ∃ a, actual.partAt? other = some a ∧ Agrees strict p a

/-! ## Parts that agree -/

theorem Agrees.part? {pattern actual p : Value} {turn : Turn}
    (agrees : Agrees strict pattern actual) (found : pattern.part? turn = some p) :
    ∃ a, actual.part? turn = some a ∧ Agrees strict p a := by
  cases pattern with
  | object expected =>
    cases turn with
    | index i => contradiction
    | key key =>
      cases actual with
      | object fields => exact (agrees_object_iff.mp agrees).1 (key, p) (Table.mem_of_get? found)
      | _ => exact Bool.noConfusion ((agrees_whole_iff rfl).mp agrees)
  | array patterns =>
    cases turn with
    | key key => contradiction
    | index i =>
      cases actual with
      | array items =>
        obtain ⟨count, all⟩ := agrees_array_iff.mp agrees
        obtain ⟨known, _⟩ := List.getElem?_eq_some_iff.mp found
        have there : items[i]? = some items[i] := List.getElem?_eq_getElem (count ▸ known)
        exact ⟨_, there, all i p _ found there⟩
      | _ => exact Bool.noConfusion ((agrees_whole_iff rfl).mp agrees)
  | _ => contradiction

/-- What agrees does so in every part. -/
theorem Agrees.partAt? {pattern actual p : Value} {way : List Turn}
    (agrees : Agrees strict pattern actual) (found : pattern.partAt? way = some p) :
    ∃ a, actual.partAt? way = some a ∧ Agrees strict p a := by
  induction way generalizing pattern actual with
  | nil =>
    obtain rfl := Option.some.inj found
    exact ⟨actual, rfl, agrees⟩
  | cons turn rest ih =>
    obtain ⟨part, here, found⟩ := Option.bind_eq_some_iff.mp found
    obtain ⟨other, there, agrees⟩ := agrees.part? here
    obtain ⟨a, known, agrees⟩ := ih agrees found
    exact ⟨a, Option.bind_eq_some_iff.mpr ⟨other, there, known⟩, agrees⟩

/-! ## The first defect -/

theorem FirstDefect.here {pattern actual : Value} {told : String}
    (defect : Defect strict pattern actual told) : FirstDefect strict pattern actual [] told where
  defect := ⟨pattern, actual, rfl, rfl, defect⟩
  first _ _ precedes := nomatch precedes

/-- The first defect of two parts is that of the values, if the parts before these agree. -/
theorem FirstDefect.inside {pattern actual p a : Value} {turn : Turn} {way : List Turn}
    {told : String} (inner : FirstDefect strict p a way told)
    (here : pattern.part? turn = some p) (there : actual.part? turn = some a)
    (before : ∀ other q, other.Before turn → pattern.part? other = some q →
      ∃ b, actual.part? other = some b ∧ Agrees strict q b) :
    FirstDefect strict pattern actual (turn :: way) told where
  defect := by
    obtain ⟨q, b, found, found', defect⟩ := inner.defect
    exact ⟨q, b, Option.bind_eq_some_iff.mpr ⟨p, here, found⟩,
      Option.bind_eq_some_iff.mpr ⟨a, there, found'⟩, defect⟩
  first other q precedes found := by
    cases precedes with
    | here earlier rest _ =>
      obtain ⟨part, known, found⟩ := Option.bind_eq_some_iff.mp found
      obtain ⟨b, known', agrees⟩ := before _ part earlier known
      obtain ⟨c, found', agrees⟩ := agrees.partAt? found
      exact ⟨c, Option.bind_eq_some_iff.mpr ⟨b, known', found'⟩, agrees⟩
    | later _ precedes =>
      obtain ⟨part, known, found⟩ := Option.bind_eq_some_iff.mp found
      obtain rfl : p = part := Option.some.inj (here.symm.trans known)
      obtain ⟨b, found', agrees⟩ := inner.first _ q precedes found
      exact ⟨b, Option.bind_eq_some_iff.mpr ⟨a, there, found'⟩, agrees⟩

theorem compareFields_error {found : Fields} {actual : Value} {expected : List (String × Value)}
    {mismatch : Mismatch} (order : Table.Ascending expected)
    (failed : compareFields strict found actual expected = .error mismatch) :
    ∃ field ∈ expected,
      (∀ other ∈ expected, other.1 < field.1 →
        ∃ v, found.get? other.1 = some v ∧ Agrees strict other.2 v) ∧
      (found.get? field.1 = none ∧ mismatch = .missingKey field.1 actual ∨
        ∃ v inner, found.get? field.1 = some v ∧ compare strict field.2 v = .error inner ∧
          mismatch = .atKey field.1 inner) := by
  induction expected with
  | nil => simp [compareFields, pure, Except.pure] at failed
  | cons field rest ih =>
    obtain ⟨key, pattern⟩ := field
    obtain ⟨above, others⟩ := List.pairwise_cons.mp order
    have noneBelow : ∀ other ∈ (key, pattern) :: rest, other.1 < key →
        ∃ v, found.get? other.1 = some v ∧ Agrees strict other.2 v := by
      intro other member below
      rcases List.mem_cons.mp member with rfl | later
      · exact absurd below (String.lt_irrefl _)
      · exact absurd (String.lt_trans below (above other later)) (String.lt_irrefl _)
    rw [compareFields] at failed
    cases known : found.get? key with
    | none =>
      rw [known] at failed
      obtain rfl := Except.error.inj failed
      exact ⟨(key, pattern), List.mem_cons_self, noneBelow, .inl ⟨known, rfl⟩⟩
    | some v =>
      rw [known] at failed
      cases came : compare strict pattern v with
      | error inner =>
        simp only [came, Except.mapError, bind, Except.bind] at failed
        obtain rfl := Except.error.inj failed
        exact ⟨(key, pattern), List.mem_cons_self, noneBelow, .inr ⟨v, inner, known, came, rfl⟩⟩
      | ok u =>
        simp only [came, Except.mapError, bind, Except.bind] at failed
        obtain ⟨field, member, before, wrong⟩ := ih others failed
        refine ⟨field, List.mem_cons_of_mem _ member, fun other there below => ?_, wrong⟩
        rcases List.mem_cons.mp there with rfl | later
        · exact ⟨v, known, came⟩
        · exact before other later below

theorem compareItems_error {index : Nat} {patterns items : List Value} {mismatch : Mismatch}
    (failed : compareItems strict index patterns items = .error mismatch) :
    ∃ (i : Nat) (p a : Value) (inner : Mismatch), patterns[i]? = some p ∧ items[i]? = some a ∧
      compare strict p a = .error inner ∧ mismatch = .atIndex (index + i) inner ∧
      ∀ (j : Nat) (q b : Value), j < i → patterns[j]? = some q → items[j]? = some b →
        Agrees strict q b := by
  induction patterns generalizing index items with
  | nil => simp [compareItems, pure, Except.pure] at failed
  | cons pattern patterns ih =>
    cases items with
    | nil => simp [compareItems, pure, Except.pure] at failed
    | cons v rest =>
      rw [compareItems] at failed
      cases came : compare strict pattern v with
      | error inner =>
        simp only [came, Except.mapError, bind, Except.bind] at failed
        obtain rfl := Except.error.inj failed
        exact ⟨0, pattern, v, inner, rfl, rfl, came, rfl,
          fun j _ _ below => absurd below (Nat.not_lt_zero j)⟩
      | ok u =>
        simp only [came, Except.mapError, bind, Except.bind] at failed
        obtain ⟨i, p, a, inner, here, there, wrong, rfl, before⟩ := ih failed
        refine ⟨i + 1, p, a, inner, here, there, wrong, ?_, fun j q b below known known' => ?_⟩
        · rw [Nat.add_assoc, Nat.add_comm 1 i]
        · cases j with
          | zero =>
            obtain rfl := Option.some.inj known
            obtain rfl := Option.some.inj known'
            exact came
          | succ j => exact before j q b (Nat.lt_of_succ_lt_succ below) known known'

theorem find?_unnamed_eq_some {expected found : List (String × Value)} {field : String × Value}
    (order : Table.Ascending found)
    (first : (found.find? fun field => !Table.contains expected field.1) = some field) :
    field.1 ∈ Table.keys found ∧ field.1 ∉ Table.keys expected ∧
      ∀ other ∈ Table.keys found, other ∉ Table.keys expected →
        other = field.1 ∨ field.1 < other := by
  obtain ⟨unnamed, front, back, rfl, named⟩ := List.find?_eq_some_iff_append.mp first
  have unnamed : field.1 ∉ Table.keys expected := by
    simpa [← Table.contains_iff] using unnamed
  refine ⟨Table.mem_keys (by simp), unnamed, fun other member unknown => ?_⟩
  obtain ⟨there, inside, rfl⟩ := List.mem_map.mp member
  rcases List.mem_append.mp inside with before | after
  · -- whatever is listed before it, the pattern names
    have known := named there before
    exact absurd (Table.contains_iff.mp (by simpa using known)) unknown
  · rcases List.mem_cons.mp after with rfl | after
    · exact .inl rfl
    · exact .inr ((List.pairwise_cons.mp (List.pairwise_append.mp order).2.1).1 there after)

theorem message_atKey (key : String) (inner : Mismatch) :
    (Mismatch.atKey key inner).message = (Turn.key key).text ++ inner.message :=
  rfl

theorem message_atIndex (index : Nat) (inner : Mismatch) :
    (Mismatch.atIndex index inner).message = (Turn.index index).text ++ inner.message :=
  rfl

/-- The message of a comparison of these two, if it fails, is about their first defect. -/
def TellsFirst (strict : Bool) (pattern actual : Value) : Prop :=
  ∀ mismatch, compare strict pattern actual = .error mismatch →
    ∃ way told, mismatch.message = String.join (way.map Turn.text) ++ told ∧
      FirstDefect strict pattern actual way told

theorem tellsFirst_whole {pattern actual : Value} (whole : byParts pattern actual = false) :
    TellsFirst strict pattern actual := by
  intro mismatch failed
  rw [compare_whole whole] at failed
  split at failed
  · contradiction
  · rename_i unequal
    obtain rfl := Except.error.inj failed
    exact ⟨[], _, String.empty_append.symm, .here (.differs whole (Bool.not_eq_true _ ▸ unequal))⟩

theorem tellsFirst_array {patterns items : List Value}
    (inside : ∀ p ∈ patterns, ∀ a ∈ items, TellsFirst strict p a) :
    TellsFirst strict (.array patterns) (.array items) := by
  intro mismatch failed
  rw [compare] at failed
  split at failed
  · rename_i count
    obtain ⟨i, p, a, inner, here, there, wrong, rfl, before⟩ := compareItems_error failed
    obtain ⟨way, told, text, first⟩ :=
      inside p (List.mem_of_getElem? here) a (List.mem_of_getElem? there) inner wrong
    refine ⟨.index i :: way, told, ?_, first.inside here there fun other q earlier known => ?_⟩
    · rw [message_atIndex, text, Nat.zero_add, List.map_cons, String.join_cons,
        String.append_assoc]
    · cases earlier with | index below =>
      obtain ⟨within, _⟩ := List.getElem?_eq_some_iff.mp known
      have known' := List.getElem?_eq_getElem (count ▸ within : _ < items.length)
      exact ⟨_, known', before _ q _ below known known'⟩
  · rename_i ne
    obtain rfl := Except.error.inj failed
    exact ⟨[], _, String.empty_append.symm, .here (.wrongLength fun same => ne same.symm)⟩

theorem tellsFirst_object {expected found : List (String × Value)}
    (order : Table.Ascending expected) (order' : Table.Ascending found)
    (inside : ∀ field ∈ expected, ∀ other ∈ found, TellsFirst strict field.2 other.2) :
    TellsFirst strict (.object expected) (.object found) := by
  intro mismatch failed
  rw [compare_object] at failed
  cases fields : compareFields strict found (.object found) expected with
  | error first =>
    rw [fields] at failed
    obtain rfl := Except.error.inj failed
    obtain ⟨⟨key, p⟩, member, before, ⟨missing, rfl⟩ | ⟨a, inner, there, wrong, rfl⟩⟩ :=
      compareFields_error order fields
    · exact ⟨[], _, String.empty_append.symm, .here (.missingKey (Table.mem_keys member)
        (Table.get?_eq_none_iff.mp missing) before)⟩
    · obtain ⟨way, told, text, first⟩ :=
        inside _ member _ (Table.mem_of_get? there) inner wrong
      have here := Table.get?_of_mem order.nodup_keys member
      refine ⟨.key key :: way, told, ?_, first.inside here there fun other q earlier known => ?_⟩
      · rw [message_atKey, text, List.map_cons, String.join_cons, String.append_assoc]
      · cases earlier with | key below =>
        exact before _ (Table.mem_of_get? known) below
  | ok u =>
    rw [fields] at failed
    cases strict with
    | false => contradiction
    | true =>
      cases extra : found.find? fun field => !Table.contains expected field.1 with
      | none =>
        simp only [extra, bind, Except.bind] at failed
        contradiction
      | some field =>
        simp only [extra, bind, Except.bind] at failed
        obtain rfl := Except.error.inj failed
        obtain ⟨there, unnamed, smallest⟩ := find?_unnamed_eq_some order' extra
        exact ⟨[], _, String.empty_append.symm,
          .here (.extraKey rfl (compareFields_ok_iff.mp fields) there unnamed smallest)⟩

/-- A failed comparison tells the way to the first defect, and what it is. -/
theorem failure_tells_first_defect {strict : Bool} {pattern actual : Value} {mismatch : Mismatch}
    (order : pattern.Ordered) (order' : actual.Ordered)
    (failed : compare strict pattern actual = .error mismatch) :
    ∃ way told, mismatch.message = String.join (way.map Turn.text) ++ told ∧
      FirstDefect strict pattern actual way told := by
  induction pattern generalizing actual mismatch with
  | array patterns ih =>
    cases actual with
    | array items =>
      refine tellsFirst_array (fun p member a member' _ => ?_) mismatch failed
      exact ih p member (Value.orderedItems_iff.mp order p member)
        (Value.orderedItems_iff.mp order' a member')
    | _ => exact tellsFirst_whole rfl mismatch failed
  | object expected ih =>
    cases actual with
    | object found =>
      obtain ⟨ascending, order⟩ := order
      obtain ⟨ascending', order'⟩ := order'
      refine tellsFirst_object ascending ascending' (fun field member other member' _ => ?_)
        mismatch failed
      exact ih field member (Value.orderedFields_iff.mp order field member)
        (Value.orderedFields_iff.mp order' other member')
    | _ => exact tellsFirst_whole rfl mismatch failed
  | _ => exact tellsFirst_whole (by cases actual <;> rfl) mismatch failed

/-- Two defects at different depths: the key `b` that is missing is found before the key `c` is
looked for. -/
theorem failure_tells_first_defect_of_nested :
    let pattern : Value :=
      .object [("a", .array [.int 1, .object [("b", .null)]]), ("c", .null)]
    let actual : Value := .object [("a", .array [.int 1, .object [("d", .null)]])]
    let mismatch : Mismatch :=
      .atKey "a" (.atIndex 1 (.missingKey "b" (.object [("d", .null)])))
    pattern.Ordered ∧ actual.Ordered ∧ compare true pattern actual = .error mismatch ∧
      ∃ way told, mismatch.message = String.join (way.map Turn.text) ++ told ∧
        FirstDefect true pattern actual way told := by
  intro pattern actual mismatch
  have order : pattern.Ordered := by
    simp only [pattern, Value.Ordered, Value.OrderedItems, Value.OrderedFields, Table.Ascending]
    decide
  have order' : actual.Ordered := by
    simp only [actual, Value.Ordered, Value.OrderedItems, Value.OrderedFields, Table.Ascending]
    decide
  have failed : compare true pattern actual = .error mismatch := by
    have same : (Value.int 1).looselyEquals (.int 1) = true := by decide
    simp [pattern, actual, mismatch, compare, compareFields, compareItems, Table.get?_cons,
      Table.get?_nil, same, Except.mapError, bind, Except.bind, pure, Except.pure, throw, throwThe,
      MonadExceptOf.throw]
  exact ⟨order, order', failed, failure_tells_first_defect order order' failed⟩

end Structure
end MatchTree
