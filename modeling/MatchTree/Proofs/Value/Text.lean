import MatchTree.Proofs.Json.Lexing
import MatchTree.Proofs.Text.Quoted
import MatchTree.Proofs.Value.Equivalence
import MatchTree.Proofs.Value.Numeric
import MatchTree.Value.Text

/-!
The text of a value tells it from every value that it is not loosely equal to.

A value begins with a quote, with a bracket or with a character of a word, and so shows its kind as
far as loose equality knows kinds. A word is a numeral or one of five names; the numeral stands for
the number, so it does not matter whether an integer or a float is written by it. Strings, arrays
and objects end by themselves, words before whatever may follow a value.
-/

set_option autoImplicit false
namespace MatchTree
open Json (Numeral EndsWord endsWord_cons isWordChar)

/-- The text of a finite double is a numeral that stands for it. -/
theorem Finite.exists_numeral_plainText (x : Finite) :
    ∃ n : Numeral, n.chars = x.plainText ∧ n.decimal.toDouble = .finite x := by
  have near := x.toDouble_shortest_strip
  rw [Finite.plainText]
  generalize x.shortest.strip = d at near ⊢
  cases size : d.exponent with
  | ofNat up =>
    refine ⟨⟨d.negative, d.plainSize, [], none, Json.isWhole_plainSize size, rfl, by simp⟩, ?_, ?_⟩
    · simp [Numeral.chars, Numeral.tailChars, Numeral.powerChars, Decimal.signText]
    · -- the zeros at the end stand for the power of ten
      have same : Decimal.toDouble ⟨d.negative, ofDigits d.plainSize, 0⟩ = d.toDouble := by
        rw [Json.ofDigits_plainSize size, Decimal.toDouble_shift, Int.zero_add,
          ← Int.ofNat_eq_natCast, ← size]
      simpa [Numeral.decimal, Numeral.powerValue] using same.trans near
  | negSucc down =>
    obtain ⟨n, text, _, same⟩ := Json.writes_fraction size
    exact ⟨n, text, same ▸ near⟩

namespace Value

/-! ## Words -/

/-- The decimal stands for the number that is the value. -/
def ReadsAs : Value → Decimal → Prop
  | .int i, d => d = ⟨i.toInt < 0, i.toInt.natAbs, 0⟩
  | .float x, d => d.toDouble = x
  | _, _ => False

/-- The values that are shown by a name. -/
def named : List Value :=
  [.null, .bool true, .bool false, .float (.infinite true), .float (.infinite false)]

/-- What a value other than a word begins with. -/
def lead? : Value → Option Char
  | .string _ => some '"'
  | .array _ => some '['
  | .object _ => some '\x7b'
  | _ => none

theorem named_chars : ∀ v ∈ named, v.chars ≠ [] ∧ v.chars.all isWordChar = true ∧
    Json.isNumeral v.chars = false := by
  decide +kernel

theorem looselyEquals_of_named :
    ∀ a ∈ named, ∀ b ∈ named, a.chars = b.chars → a.looselyEquals b = true := by
  decide +kernel

/-- A word is a numeral that stands for the number, or a name. -/
theorem word_cases {v : Value} (word : v.lead? = none) (free : v ≠ .float .nan) :
    (∃ n : Numeral, n.chars = v.chars ∧ v.ReadsAs n.decimal) ∨ v ∈ named := by
  cases v with
  | null => exact .inr (by simp [named])
  | bool b => exact .inr (by cases b <;> simp [named])
  | int i => exact .inl ⟨.ofInt i.toInt, Numeral.chars_ofInt _, Numeral.decimal_ofInt _⟩
  | float x =>
    cases x with
    | nan => contradiction
    | infinite negative => exact .inr (by cases negative <;> simp [named])
    | finite x =>
      obtain ⟨n, text, near⟩ := x.exists_numeral_plainText
      exact .inl ⟨n, by rw [text, chars, Double.text, String.toList_ofList], near⟩
  | _ => contradiction

theorem word_chars {v : Value} (word : v.lead? = none) :
    v.chars ≠ [] ∧ v.chars.all isWordChar = true := by
  by_cases nan : v = .float .nan
  · subst nan
    decide +kernel
  · obtain ⟨n, text, _⟩ | name := word_cases word nan
    · exact text ▸ ⟨n.chars_ne_nil, n.isWordChar_chars⟩
    · exact ⟨(named_chars v name).1, (named_chars v name).2.1⟩

theorem looselyEquals_of_readsAs {a b : Value} {d : Decimal} (free : a ≠ .float .nan)
    (free' : b ≠ .float .nan) (reads : a.ReadsAs d) (reads' : b.ReadsAs d) :
    a.looselyEquals b = true := by
  have rounded (i : Int64) {x : Double} (exact : d = ⟨i.toInt < 0, i.toInt.natAbs, 0⟩)
      (near : d.toDouble = x) : Double.ofInt i.toInt = x := by
    rw [← near, exact, Decimal.toDouble_int (natAbs_toInt_lt i)]
  cases a with
  | int i =>
    cases b with
    | int j =>
      obtain ⟨sign, size, _⟩ := Decimal.mk.inj (reads.symm.trans reads')
      have same : i.toInt = j.toInt := by
        have signs := decide_eq_decide.mp sign
        omega
      exact beq_iff_eq.mpr (Int64.toInt_inj.mp same)
    | float y =>
      rw [looselyEquals, rounded i reads reads']
      exact Double.equals_self_iff.mpr fun nan => free' (congrArg Value.float nan)
    | _ => contradiction
  | float x =>
    have self := Double.equals_self_iff.mpr fun nan => free (congrArg Value.float nan)
    cases b with
    | int j =>
      rw [looselyEquals, rounded j reads' reads]
      exact self
    | float y =>
      obtain rfl : x = y := reads.symm.trans reads'
      exact self
    | _ => contradiction
  | _ => contradiction

theorem looselyEquals_of_word {a b : Value} (word : a.lead? = none) (word' : b.lead? = none)
    (free : a ≠ .float .nan) (free' : b ≠ .float .nan) (same : a.chars = b.chars) :
    a.looselyEquals b = true := by
  -- no name is a numeral
  have apart {n : Numeral} {v : Value} (name : v ∈ named) (text : n.chars = v.chars) : False :=
    Bool.noConfusion ((named_chars v name).2.2.symm.trans (text ▸ n.isNumeral_chars))
  obtain ⟨n, text, reads⟩ | name := word_cases word free <;>
    obtain ⟨n', text', reads'⟩ | name' := word_cases word' free'
  · -- one text is read as one decimal, and an integer and a float may both have it
    have decimals : n.decimal = n'.decimal := by
      rw [← Option.some_inj, ← n.read?_chars, ← n'.read?_chars, text, text', same]
    exact looselyEquals_of_readsAs free free' reads (decimals ▸ reads')
  · exact (apart name' (text.trans same)).elim
  · exact (apart name (text'.trans same.symm)).elim
  · exact looselyEquals_of_named a name b name' same

/-! ## Kinds -/

/-- The first character of a text, unless it is one of a word, tells the kind of the value. -/
theorem head?_chars (v : Value) (rest : List Char) :
    (v.chars ++ rest).head?.filter (fun c => !isWordChar c) = v.lead? := by
  cases lead : v.lead? with
  | none =>
    obtain ⟨nonempty, all⟩ := word_chars lead
    obtain ⟨c, more, shape⟩ := List.exists_cons_of_ne_nil nonempty
    rw [shape, List.all_cons, Bool.and_eq_true_iff] at all
    rw [shape, List.cons_append, List.head?_cons, Option.filter_some, all.1]
    rfl
  | some c => cases v <;> first | contradiction | (rw [← lead]; rfl)

theorem lead?_of_append {a b : Value} {rest rest' : List Char}
    (same : a.chars ++ rest = b.chars ++ rest') : a.lead? = b.lead? := by
  rw [← head?_chars a rest, ← head?_chars b rest', same]

/-- No value begins as a list ends. -/
theorem head?_ne {c : Char} (closing : c = ']' ∨ c = '\x7d') (v : Value) (rest : List Char) :
    (v.chars ++ rest).head? ≠ some c := by
  intro first
  have lead := head?_chars v rest
  have mark : isWordChar c = false := by obtain rfl | rfl := closing <;> rfl
  rw [first, Option.filter_some, mark] at lead
  obtain rfl | rfl := closing <;> cases v <;> simp [lead?] at lead

/-! ## Lists -/

theorem itemChars_cons_cons (item next : Value) (rest : List Value) :
    itemChars (item :: next :: rest) = item.chars ++ ',' :: ' ' :: itemChars (next :: rest) := rfl

theorem itemChars_eq (items : List Value) :
    itemChars items = [',', ' '].intercalate (items.map chars) := by
  induction items with
  | nil => rfl
  | cons item rest ih =>
    cases rest with
    | nil => simp [itemChars, List.intercalate_singleton]
    | cons next rest =>
      rw [itemChars_cons_cons, ih, intercalate_map_cons, intercalate_map_cons, List.flatMap_cons]
      simp

/-- One field of an object. -/
def entryChars (field : String × Value) : List Char :=
  quoteChars field.1.toList ++ ':' :: ' ' :: field.2.chars

theorem fieldChars_cons_cons (field next : String × Value) (rest : List (String × Value)) :
    fieldChars (field :: next :: rest) = quoteChars field.1.toList ++
      ':' :: ' ' :: (field.2.chars ++ ',' :: ' ' :: fieldChars (next :: rest)) := rfl

theorem fieldChars_eq (fields : List (String × Value)) :
    fieldChars fields = [',', ' '].intercalate (fields.map entryChars) := by
  induction fields with
  | nil => rfl
  | cons field rest ih =>
    cases rest with
    | nil => simp [fieldChars, entryChars, List.intercalate_singleton]
    | cons next rest =>
      rw [fieldChars_cons_cons, ih, intercalate_map_cons, intercalate_map_cons,
        List.flatMap_cons]
      simp [entryChars]

/-- Fields with one key and loosely equal values. -/
def SameEntry (field other : String × Value) : Prop :=
  field.1 = other.1 ∧ field.2.looselyEquals other.2 = true

theorem looselyEquals_of_items {as bs : List Value}
    (equal : List.Forall₂ (fun a b => a.looselyEquals b = true) as bs) :
    (array as).looselyEquals (.array bs) = true := by
  rw [looselyEquals]
  induction equal with
  | nil => rfl
  | cons here _ ih => exact Bool.and_eq_true_iff.mpr ⟨here, ih⟩

theorem looselyEquals_of_entries {as bs : List (String × Value)}
    (distinct : (Table.keys bs).Nodup) (equal : List.Forall₂ SameEntry as bs) :
    (object as).looselyEquals (.object bs) = true := by
  -- entries agree place by place, loose equality looks them up by key
  have found : ∀ field ∈ as, ∃ other ∈ bs, SameEntry field other := by
    clear distinct
    induction equal with
    | nil => exact fun _ member => nomatch member
    | cons here _ ih =>
      refine List.forall_mem_cons.mpr ⟨⟨_, List.mem_cons_self, here⟩, fun field member => ?_⟩
      obtain ⟨other, there, same⟩ := ih field member
      exact ⟨other, List.mem_cons_of_mem _ there, same⟩
  refine looselyEquals_object_iff.mpr ⟨equal.length_eq, fun field member => ?_⟩
  obtain ⟨other, there, key, same⟩ := found field member
  exact ⟨other.2, key ▸ Table.get?_of_mem distinct there, same⟩

/-! ## Values -/

/-- Before what may follow a value, the texts of these two are alike only if they are equal. -/
abbrev Apart (a b : Value) : Prop :=
  ToldApart EndsWord chars (fun a b => a.looselyEquals b = true) a b

theorem apart_of_word {a b : Value} (word : a.lead? = none) (free : a ≠ .float .nan)
    (free' : b ≠ .float .nan) : a.Apart b := by
  intro rest rest' ends ends' same
  have word' := (lead?_of_append same).symm.trans word
  obtain ⟨text, after⟩ := append_inj_of_stops (List.all_eq_true.mp (word_chars word).2)
    (List.all_eq_true.mp (word_chars word').2) ends ends' same
  exact ⟨looselyEquals_of_word word word' free free' text, after⟩

theorem apart_of_lead? {a b : Value} (other : a.lead? ≠ b.lead?) : a.Apart b :=
  fun _ _ _ _ same => absurd (lead?_of_append same) other

theorem apart_string (s t : String) : (string s).Apart (.string t) := by
  intro rest rest' _ _ same
  obtain ⟨text, after⟩ := quoteChars_append_inj same
  exact ⟨beq_iff_eq.mpr (String.toList_inj.mp text), after⟩

theorem apart_array {as bs : List Value} (apart : ∀ a ∈ as, ∀ b ∈ bs, a.Apart b) :
    (array as).Apart (.array bs) := by
  intro rest rest' _ _ same
  have inner : itemChars as ++ ']' :: rest = itemChars bs ++ ']' :: rest' := by
    simpa [chars] using same
  rw [itemChars_eq, itemChars_eq] at inner
  obtain ⟨equal, after⟩ := intercalate_append_inj (by decide) (head?_ne (.inl rfl))
    (fun _ => endsWord_cons rfl) (fun _ => endsWord_cons rfl) apart inner
  exact ⟨looselyEquals_of_items equal, after⟩

theorem apart_entry {field other : String × Value} (apart : field.2.Apart other.2) :
    ToldApart EndsWord entryChars SameEntry field other := by
  intro rest rest' ends ends' same
  rw [entryChars, entryChars, List.append_assoc, List.append_assoc] at same
  obtain ⟨key, later⟩ := quoteChars_append_inj same
  obtain ⟨equal, after⟩ :=
    apart rest rest' ends ends' (List.cons.inj (List.cons.inj later).2).2
  exact ⟨⟨String.toList_inj.mp key, equal⟩, after⟩

theorem apart_object {as bs : List (String × Value)} (distinct : (Table.keys bs).Nodup)
    (apart : ∀ field ∈ as, ∀ other ∈ bs, field.2.Apart other.2) :
    (object as).Apart (.object bs) := by
  intro rest rest' _ _ same
  have inner : fieldChars as ++ '\x7d' :: rest = fieldChars bs ++ '\x7d' :: rest' := by
    simpa [chars] using same
  rw [fieldChars_eq, fieldChars_eq] at inner
  have quoted (field : String × Value) (rest : List Char) :
      (entryChars field ++ rest).head? ≠ some '\x7d' :=
    fun first => absurd (Option.some.inj first) (by decide)
  obtain ⟨equal, after⟩ := intercalate_append_inj (by decide) quoted
    (fun _ => endsWord_cons rfl) (fun _ => endsWord_cons rfl)
    (fun field member other member' => apart_entry (apart field member other member')) inner
  exact ⟨looselyEquals_of_entries distinct equal, after⟩

theorem apart_of_nanFree {a b : Value} (distinct : b.Distinct) (free : a.NanFree)
    (free' : b.NanFree) : a.Apart b := by
  have number {v : Value} (free : v.NanFree) : v ≠ .float .nan := by
    rintro rfl
    exact free rfl
  induction a generalizing b with
  | array as ih =>
    cases b with
    | array bs =>
      refine apart_array fun x member y member' => ?_
      exact ih x member (distinctItems_iff.mp distinct y member')
        (throughoutItems_iff.mp free x member) (throughoutItems_iff.mp free' y member')
    | _ => exact apart_of_lead? (by simp [lead?])
  | object as ih =>
    cases b with
    | object bs =>
      obtain ⟨nodup, distinct⟩ := distinct
      refine apart_object nodup fun field member other member' => ?_
      exact ih field member (distinctFields_iff.mp distinct other member')
        (throughoutFields_iff.mp free field member) (throughoutFields_iff.mp free' other member')
    | _ => exact apart_of_lead? (by simp [lead?])
  | string s =>
    cases b with
    | string t => exact apart_string s t
    | _ => exact apart_of_lead? (by simp [lead?])
  | _ => exact apart_of_word rfl (number free) (number free')

/-- Values without a NaN are shown alike only if they are loosely equal. -/
theorem looselyEquals_of_text {a b : Value} (distinct : b.Distinct) (free : a.NanFree)
    (free' : b.NanFree) (same : a.text = b.text) : a.looselyEquals b = true := by
  have ends : EndsWord [] := fun _ none => nomatch none
  have text : a.chars ++ [] = b.chars ++ [] := by
    rw [List.append_nil, List.append_nil, String.ofList_injective same]
  exact (apart_of_nanFree distinct free free' [] [] ends ends text).1

-- No more than loose equality can be told: an integer and a float have one text.
example : (int 20).text = (float (.ofInt 20)).text ∧
    (int 20).equals (.float (.ofInt 20)) = false := by
  decide +kernel

end Value
end MatchTree
