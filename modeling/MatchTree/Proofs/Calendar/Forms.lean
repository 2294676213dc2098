import MatchTree.Proofs.Calendar.Timeline

/-!
The written forms of dates, told apart by their letters and colons.

Only mail headers have letters other than `T` and `Z`; only the Internet form has three colons or a
`Z`; and the plain forms differ in their colons and in the `T` before the time of day. So a text has
one form at most, and in whatever order the forms are tried, the same is read.
-/

set_option autoImplicit false
namespace MatchTree
namespace Calendar

/-- A plain form has a `T` or white space before the time of day, and has seconds or not. -/
inductive Form
  | internet
  | mail
  | plain (marked seconds : Bool)
  | day
  deriving DecidableEq

namespace Form

def separation (marked : Bool) : List Char → Option (List Char) :=
  if marked then char? 'T' else fun text => some (trimStart text)

/-- The local time that a text in this form names, with its offset; where none is written, the
offset is zero. -/
def read? (text : List Char) : Form → Option Zoned
  | internet => whole? (Calendar.internet? text)
  | mail => whole? (mail? text)
  | plain marked seconds =>
    (whole? (plain? (separation marked) seconds text)).map fun m => ⟨m, 0⟩
  | day => (whole? (plainDate? text)).map fun date => ⟨⟨date, .midnight⟩, 0⟩

end Form

theorem whole?_eq_some_iff {α : Type} {result : Option (α × List Char)} {a : α} :
    whole? result = some a ↔ result = some (a, []) := by
  match result with
  | none => simp [whole?]
  | some (b, []) => simp [whole?]
  | some (b, c :: rest) => simp [whole?]

/-! ## Marks -/

def isMark (c : Char) : Bool := c.isAlpha || c == ':'

/-- The letters and colons of a text. -/
def marks (text : List Char) : List Char := text.filter isMark

theorem isMark_iff {c : Char} : isMark c = true ↔
    65 ≤ c.toNat ∧ c.toNat ≤ 90 ∨ 97 ≤ c.toNat ∧ c.toNat ≤ 122 ∨ c.toNat = 58 := by
  change (decide (c.val ≥ 'A'.val ∧ c.val ≤ 'Z'.val) ||
    (decide (c.val ≥ 'a'.val) && decide (c.val ≤ 'z'.val)) || c == ':') = true ↔ _
  simp only [ge_iff_le, Bool.or_eq_true, Bool.and_eq_true, decide_eq_true_eq, beq_iff_eq,
    UInt32.le_iff_toNat_le, or_assoc, ← Char.toNat_inj]
  rfl

theorem isMark_of_isDigit {c : Char} (digit : c.isDigit = true) : isMark c = false := by
  have range := Char.isDigit_iff_toNat.mp digit
  rw [← Bool.not_eq_true, isMark_iff]
  change 48 ≤ c.toNat ∧ c.toNat ≤ 57 at range
  omega

theorem isMark_of_isBlank {c : Char} (blank : isBlank c = true) : isMark c = false := by
  simp only [isBlank, Bool.or_eq_true, decide_eq_true_eq, Bool.and_eq_true, beq_iff_eq] at blank
  rw [← Bool.not_eq_true, isMark_iff]
  omega

theorem marks_append (front back : List Char) : marks (front ++ back) = marks front ++ marks back :=
  List.filter_append _ _

theorem marks_eq_nil {text : List Char}
    (silent : ∀ c ∈ text, c.isDigit = true ∨ isBlank c = true) : marks text = [] :=
  List.filter_eq_nil_iff.mpr fun c member =>
    Bool.eq_false_iff.mp ((silent c member).elim isMark_of_isDigit isMark_of_isBlank)

section
variable {text rest : List Char}

theorem marks_trimStart : marks (trimStart text) = marks text := by
  conv_rhs => rw [← @List.takeWhile_append_dropWhile _ isBlank text, marks_append]
  rw [marks_eq_nil fun c member => .inr (List.all_eq_true.mp List.all_takeWhile c member)]
  rfl

/-- To drop some of the leading digits leaves the marks. -/
theorem marks_drop {digits : List Char} (leading : digits <+: text.takeWhile Char.isDigit) :
    marks (text.drop digits.length) = marks text := by
  have front := leading.trans (List.takeWhile_prefix _)
  conv_rhs => rw [← List.prefix_iff_eq_append.mp front, marks_append]
  rw [marks_eq_nil fun c member =>
    .inl (List.all_eq_true.mp List.all_takeWhile c (leading.subset member))]
  rfl

theorem marks_number? {least n : Nat} {most : Option Nat}
    (read : number? least most text = some (n, rest)) : marks text = marks rest := by
  rw [number?.eq_def] at read
  cases most with
  | none =>
    obtain ⟨_, read⟩ := Option.ite_none_left_eq_some.mp read
    obtain ⟨_, rfl⟩ := Prod.mk.inj (Option.some.inj read)
    exact (marks_drop List.prefix_rfl).symm
  | some most =>
    obtain ⟨_, read⟩ := Option.ite_none_left_eq_some.mp read
    obtain ⟨_, rfl⟩ := Prod.mk.inj (Option.some.inj read)
    exact (marks_drop (List.take_prefix _ _)).symm

theorem marks_short? {n : Nat} (read : short? text = some (n, rest)) : marks text = marks rest :=
  marks_trimStart.symm.trans (marks_number? read)

theorem marks_char? {c : Char} (read : char? c text = some rest) :
    marks text = marks [c] ++ marks rest := by
  cases text with
  | nil => contradiction
  | cons d text =>
    obtain ⟨rfl, same⟩ := Option.ite_none_right_eq_some.mp read
    obtain rfl := Option.some.inj same
    exact marks_append [d] text

theorem marks_dash? (read : char? '-' text = some rest) : marks text = marks rest :=
  marks_char? read

theorem marks_colon? (read : char? ':' text = some rest) : marks text = ':' :: marks rest :=
  marks_char? read

theorem marks_fraction? {n : Nat} (read : fraction? text = some (n, rest)) :
    marks text = marks rest := by
  rw [fraction?.eq_def] at read
  split at read
  case h_1 text =>
    obtain ⟨_, read⟩ := Option.ite_none_left_eq_some.mp read
    obtain ⟨_, rfl⟩ := Prod.mk.inj (Option.some.inj read)
    exact (marks_append ['.'] text).trans (marks_drop List.prefix_rfl).symm
  case h_2 =>
    obtain ⟨_, rfl⟩ := Prod.mk.inj (Option.some.inj read)
    rfl

theorem marks_sixties? {n : Nat} (read : sixties? text = some (n, rest)) :
    marks text = marks rest := by
  simp only [sixties?, Option.bind_eq_bind, Option.bind_eq_some_iff, Prod.exists] at read
  obtain ⟨n', rest', digits, read⟩ := read
  obtain ⟨_, read⟩ := Option.ite_none_right_eq_some.mp read
  obtain ⟨_, rfl⟩ := Prod.mk.inj (Option.some.inj read)
  exact marks_number? digits

/-- The sign is no mark, so of an offset the colon is left. -/
theorem marks_signedOffset? {offset : Int} {typographic : Bool}
    (read : signedOffset? (char? ':') typographic text = some (offset, rest)) :
    marks text = ':' :: marks rest := by
  rw [signedOffset?.eq_def] at read
  split at read
  case h_2 => contradiction
  case h_1 sign text =>
    let size (hours minutes : Nat) : Int := 3600 * hours + 60 * minutes
    have digits (negative : Bool) (read : ((fixed? 2 text).bind fun hours =>
        (char? ':' hours.2).bind fun rest => (sixties? rest).bind fun minutes =>
          some (if negative then -size hours.1 minutes.1 else size hours.1 minutes.1,
            minutes.2)) = some (offset, rest)) :
        marks text = ':' :: marks rest := by
      obtain ⟨⟨_, _⟩, hours, read⟩ := Option.bind_eq_some_iff.mp read
      obtain ⟨_, colon, read⟩ := Option.bind_eq_some_iff.mp read
      obtain ⟨⟨_, _⟩, minutes, read⟩ := Option.bind_eq_some_iff.mp read
      obtain ⟨_, rfl⟩ := Prod.mk.inj (Option.some.inj read)
      rw [marks_number? hours, marks_colon? colon, marks_sixties? minutes]
    have silent (sign : Char) (none : marks [sign] = []) : marks (sign :: text) = marks text := by
      rw [← List.singleton_append, marks_append, none, List.nil_append]
    split at read
    case isTrue plus =>
      rw [plus, silent '+' rfl]
      exact digits false read
    case isFalse =>
      split at read
      case isTrue minus =>
        obtain rfl | ⟨_, rfl⟩ := minus
        · exact (silent '-' rfl).trans (digits true read)
        · exact (silent '\u2212' rfl).trans (digits true read)
      case isFalse => contradiction

/-- The Internet form has a `T` or a space, two colons, and a `Z` or the colon of an offset. -/
theorem internet?_spec {z : Zoned} (read : internet? text = some (z, rest)) :
    z.localTime.time.second < TimeOfDay.secondsPerDay ∧
      ∃ separator closing, isDateTimeMark separator = true ∧ closing ∈ ['Z', 'z', ':'] ∧
        marks text = marks [separator] ++ ':' :: ':' :: closing :: marks rest := by
  rw [internet?] at read
  obtain ⟨⟨_, _⟩, year, read⟩ := Option.bind_eq_some_iff.mp read
  obtain ⟨_, dash, read⟩ := Option.bind_eq_some_iff.mp read
  obtain ⟨⟨_, _⟩, month, read⟩ := Option.bind_eq_some_iff.mp read
  obtain ⟨_, dash', read⟩ := Option.bind_eq_some_iff.mp read
  obtain ⟨⟨_, t⟩, day, read⟩ := Option.bind_eq_some_iff.mp read
  obtain ⟨date, _, read⟩ := Option.bind_eq_some_iff.mp read
  obtain ⟨separator, first, read⟩ := Option.bind_eq_some_iff.mp read
  obtain ⟨t, rfl⟩ := List.head?_eq_some_iff.mp first
  obtain ⟨proper, read⟩ := Option.ite_none_left_eq_some.mp read
  obtain ⟨⟨_, _⟩, hour, read⟩ := Option.bind_eq_some_iff.mp read
  obtain ⟨_, colon, read⟩ := Option.bind_eq_some_iff.mp read
  obtain ⟨⟨_, _⟩, minute, read⟩ := Option.bind_eq_some_iff.mp read
  obtain ⟨_, colon', read⟩ := Option.bind_eq_some_iff.mp read
  obtain ⟨⟨_, _⟩, second, read⟩ := Option.bind_eq_some_iff.mp read
  obtain ⟨⟨_, t'⟩, fraction, read⟩ := Option.bind_eq_some_iff.mp read
  obtain ⟨time, timed, read⟩ := Option.bind_eq_some_iff.mp read
  have before : marks text = marks [separator] ++ ':' :: ':' :: marks t' := by
    rw [marks_number? year, marks_dash? dash, marks_number? month, marks_dash? dash',
      marks_number? day, ← List.singleton_append, marks_append]
    congr 1
    exact (marks_number? hour).trans <| (marks_colon? colon).trans <| congrArg _ <|
      (marks_number? minute).trans <| (marks_colon? colon').trans <| congrArg _ <|
      (marks_number? second).trans (marks_fraction? fraction)
  have within := TimeOfDay.second_lt_of_ofFields? timed
  have proper : isDateTimeMark separator = true := by simpa using proper
  split at read
  case h_1 | h_2 =>
    obtain ⟨rfl, rfl⟩ := Prod.mk.inj (Option.some.inj read)
    exact ⟨within, separator, _, proper, by decide, before⟩
  case h_3 =>
    obtain ⟨⟨_, _⟩, offset, read⟩ := Option.bind_eq_some_iff.mp read
    obtain ⟨rfl, rfl⟩ := Prod.mk.inj (Option.some.inj read)
    rw [marks_signedOffset? offset] at before
    exact ⟨within, separator, ':', proper, by decide, before⟩

/-- A plain date has none at all. -/
theorem marks_plainDate? {date : Date} (read : plainDate? text = some (date, rest)) :
    marks text = marks rest := by
  have year {text rest : List Char} {n : Int} (read : year? text = some (n, rest)) :
      marks text = marks rest := by
    rw [year?.eq_def] at read
    split at read
    case h_1 text =>
      obtain ⟨⟨_, _⟩, digits, same⟩ := Option.map_eq_some_iff.mp read
      obtain ⟨_, rfl⟩ := Prod.mk.inj same
      exact (marks_append ['-'] text).trans (marks_number? digits)
    case h_2 text =>
      obtain ⟨⟨_, _⟩, digits, same⟩ := Option.map_eq_some_iff.mp read
      obtain ⟨_, rfl⟩ := Prod.mk.inj same
      exact (marks_append ['+'] text).trans (marks_number? digits)
    case h_3 =>
      obtain ⟨⟨_, _⟩, digits, same⟩ := Option.map_eq_some_iff.mp read
      obtain ⟨_, rfl⟩ := Prod.mk.inj same
      exact marks_number? digits
  simp only [plainDate?, Option.bind_eq_bind, Option.bind_eq_some_iff, Prod.exists, Option.pure_def,
    Option.some.injEq, Prod.mk.injEq] at read
  obtain ⟨_, _, first, _, dash, _, _, month, _, dash', _, _, day, _, _, _, rfl⟩ := read
  rw [← marks_trimStart, year first, marks_dash? dash, marks_short? month, marks_dash? dash',
    marks_short? day]

theorem plainTime?_spec {seconds : Bool} {time : TimeOfDay}
    (read : plainTime? seconds text = some (time, rest)) :
    time.second < TimeOfDay.secondsPerDay ∧
      marks text = ':' :: ((if seconds then [':'] else []) ++ marks rest) := by
  simp only [plainTime?, Option.bind_eq_bind, Option.bind_eq_some_iff, Prod.exists] at read
  obtain ⟨_, _, hour, _, colon, _, _, minute, read⟩ := read
  rw [marks_short? hour, marks_colon? colon, marks_short? minute]
  cases seconds with
  | true =>
    simp only [if_true, Option.bind_eq_some_iff, Prod.exists, Option.pure_def, Option.some.injEq,
      Prod.mk.injEq] at read
    obtain ⟨_, colon', _, _, second, _, _, fraction, _, timed, rfl, rfl⟩ := read
    rw [marks_colon? colon', marks_short? second, marks_fraction? fraction]
    exact ⟨TimeOfDay.second_lt_of_ofFields? timed, rfl⟩
  | false =>
    simp only [Bool.false_eq_true, if_false, Option.bind_eq_some_iff, Option.pure_def,
      Option.some.injEq, Prod.mk.injEq] at read
    obtain ⟨_, timed, rfl, rfl⟩ := read
    exact ⟨TimeOfDay.second_lt_of_ofFields? timed, rfl⟩

theorem plain?_spec {marked seconds : Bool} {m : Moment}
    (read : plain? (Form.separation marked) seconds text = some (m, rest)) :
    m.time.second < TimeOfDay.secondsPerDay ∧ marks text =
      (if marked then ['T'] else []) ++ ':' :: ((if seconds then [':'] else []) ++ marks rest) := by
  simp only [plain?, Option.bind_eq_bind, Option.bind_eq_some_iff, Prod.exists, Option.pure_def,
    Option.some.injEq, Prod.mk.injEq] at read
  obtain ⟨date, between, dated, after, separated, time, _, timed, rfl, rfl⟩ := read
  obtain ⟨within, marked_time⟩ := plainTime?_spec timed
  refine ⟨within, ?_⟩
  rw [marks_plainDate? dated, ← marked_time]
  cases marked with
  | true => exact marks_char? separated
  | false =>
    obtain rfl := Option.some.inj separated
    exact marks_trimStart.symm

/-- A letter, in either case, that the name of a month begins with. -/
def beginsMonth (c : Char) : Bool := monthNames.any fun name => name.head? == some c.toLower

theorem isAlpha_of_toLower {c : Char} (letter : c.toLower.isAlpha = true) : c.isAlpha = true := by
  by_cases upper : c.val ≥ 'A'.val ∧ c.val ≤ 'Z'.val
  · exact Bool.or_eq_true_iff.mpr (.inl (decide_eq_true upper))
  · have plain : c.toLower = c := dif_neg upper
    exact plain ▸ letter

theorem isMark_of_beginsMonth {c : Char} (begins : beginsMonth c = true) : isMark c = true := by
  obtain ⟨name, member, same⟩ := List.any_eq_true.mp begins
  have letters : (monthNames.all fun name => name.head?.all Char.isAlpha) = true := by decide
  have letter := List.all_eq_true.mp letters name member
  rw [eq_of_beq same, Option.all_some] at letter
  rw [isMark, isAlpha_of_toLower letter, Bool.true_or]

theorem exists_of_word? {i : Nat} (read : word? monthNames text = some (i, rest)) :
    ∃ c ∈ text, beginsMonth c = true := by
  obtain ⟨i, found, _⟩ := Option.map_eq_some_iff.mp read
  obtain ⟨inside, same, _⟩ := List.findIdx?_eq_some_iff_getElem.mp found
  have member := List.getElem_mem inside
  have named : ∀ name ∈ monthNames, name ≠ [] := by decide
  have named := named _ member
  generalize monthNames[i] = name at same member named
  obtain ⟨first, letters, rfl⟩ := List.exists_cons_of_ne_nil named
  cases text with
  | nil => contradiction
  | cons c text =>
    obtain ⟨begins, _⟩ := List.cons.inj (eq_of_beq same)
    refine ⟨c, List.mem_cons_self, List.any_eq_true.mpr ⟨_, member, ?_⟩⟩
    rw [begins]
    exact beq_self_eq_true _

theorem trimStart_subset : trimStart text ⊆ text := (List.dropWhile_suffix _).subset

theorem number?_subset {least n : Nat} {most : Option Nat}
    (read : number? least most text = some (n, rest)) : rest ⊆ text := by
  obtain ⟨_, read⟩ := Option.ite_none_left_eq_some.mp read
  obtain ⟨_, rfl⟩ := Prod.mk.inj (Option.some.inj read)
  exact List.drop_subset _ _

theorem blanks?_subset (read : blanks? text = some rest) : rest ⊆ text := by
  cases text with
  | nil => contradiction
  | cons c text =>
    obtain ⟨_, read⟩ := Option.ite_none_right_eq_some.mp read
    obtain rfl := Option.some.inj read
    exact List.subset_cons_of_subset c trimStart_subset

theorem char?_subset {c : Char} (read : char? c text = some rest) : rest ⊆ text := by
  cases text with
  | nil => contradiction
  | cons d text =>
    obtain ⟨_, same⟩ := Option.ite_none_right_eq_some.mp read
    obtain rfl := Option.some.inj same
    exact List.subset_cons_self d text

theorem weekdayPart?_subset {weekday : Option Nat}
    (read : weekdayPart? text = some (weekday, rest)) : rest ⊆ text := by
  rw [weekdayPart?] at read
  split at read
  case h_1 named =>
    obtain ⟨after, comma, same⟩ := Option.map_eq_some_iff.mp read
    obtain ⟨i, _, cut⟩ := Option.map_eq_some_iff.mp named
    obtain ⟨_, rfl⟩ := Prod.mk.inj same
    obtain ⟨_, rfl⟩ := Prod.mk.inj cut
    exact List.Subset.trans (char?_subset comma) (List.drop_subset _ _)
  case h_2 =>
    obtain ⟨_, rfl⟩ := Prod.mk.inj (Option.some.inj read)
    exact List.Subset.refl _

theorem mail?_spec {z : Zoned} (read : mail? text = some (z, rest)) :
    z.localTime.time.second < TimeOfDay.secondsPerDay ∧ (marks text).any beginsMonth = true := by
  rw [mail?] at read
  obtain ⟨⟨_, _⟩, weekday, read⟩ := Option.bind_eq_some_iff.mp read
  obtain ⟨⟨_, _⟩, day, read⟩ := Option.bind_eq_some_iff.mp read
  obtain ⟨_, blanks, read⟩ := Option.bind_eq_some_iff.mp read
  obtain ⟨⟨_, _⟩, month, read⟩ := Option.bind_eq_some_iff.mp read
  -- what follows the month matters only for the time that it ends with
  obtain ⟨_, _, read⟩ := Option.bind_eq_some_iff.mp read
  obtain ⟨⟨_, _⟩, _, read⟩ := Option.bind_eq_some_iff.mp read
  obtain ⟨_, _, read⟩ := Option.bind_eq_some_iff.mp read
  obtain ⟨⟨_, _⟩, _, read⟩ := Option.bind_eq_some_iff.mp read
  obtain ⟨_, _, read⟩ := Option.bind_eq_some_iff.mp read
  obtain ⟨⟨_, _⟩, _, read⟩ := Option.bind_eq_some_iff.mp read
  obtain ⟨⟨_, _⟩, _, read⟩ := Option.bind_eq_some_iff.mp read
  obtain ⟨_, _, read⟩ := Option.bind_eq_some_iff.mp read
  obtain ⟨⟨_, _⟩, _, read⟩ := Option.bind_eq_some_iff.mp read
  obtain ⟨date, _, read⟩ := Option.bind_eq_some_iff.mp read
  obtain ⟨time, timed, read⟩ := Option.bind_eq_some_iff.mp read
  obtain ⟨_, read⟩ := Option.ite_none_right_eq_some.mp read
  obtain ⟨rfl, _⟩ := Prod.mk.inj (Option.some.inj read)
  refine ⟨TimeOfDay.second_lt_of_ofFields? timed, ?_⟩
  obtain ⟨c, member, begins⟩ := exists_of_word? month
  have inside := trimStart_subset <| weekdayPart?_subset weekday <| trimStart_subset <|
    number?_subset day <| blanks?_subset blanks member
  exact List.any_eq_true.mpr
    ⟨c, List.mem_filter.mpr ⟨inside, isMark_of_beginsMonth begins⟩, begins⟩

end

/-! ## Telling forms apart -/

/-- The form that a text can have, by its letters and colons. -/
def Form.ofMarks (marks : List Char) : Form :=
  let colons := marks.count ':'
  if marks.any beginsMonth then mail
  else if colons = 0 then day
  else if colons = 3 ∨ 'Z' ∈ marks ∨ 'z' ∈ marks then internet
  else plain ('T' ∈ marks) (colons = 2)

theorem Form.read?_spec {form : Form} {text : List Char} {z : Zoned}
    (read : form.read? text = some z) :
    z.localTime.time.second < TimeOfDay.secondsPerDay ∧ ofMarks (marks text) = form := by
  cases form with
  | internet =>
    obtain ⟨within, separator, closing, proper, last, marked⟩ :=
      internet?_spec (whole?_eq_some_iff.mp read)
    refine ⟨within, ?_⟩
    have first : separator = 'T' ∨ separator = 't' ∨ separator = ' ' := by
      simpa [isDateTimeMark, or_assoc] using proper
    simp only [List.mem_cons, List.not_mem_nil, or_false] at last
    rw [marked]
    obtain rfl | rfl | rfl := first <;> obtain rfl | rfl | rfl := last <;> decide
  | mail =>
    obtain ⟨within, lettered⟩ := mail?_spec (whole?_eq_some_iff.mp read)
    exact ⟨within, if_pos lettered⟩
  | plain marked seconds =>
    obtain ⟨m, found, rfl⟩ := Option.map_eq_some_iff.mp read
    obtain ⟨within, same⟩ := plain?_spec (whole?_eq_some_iff.mp found)
    refine ⟨within, ?_⟩
    rw [same]
    cases marked <;> cases seconds <;> decide
  | day =>
    obtain ⟨date, found, rfl⟩ := Option.map_eq_some_iff.mp read
    refine ⟨TimeOfDay.second_midnight_lt, ?_⟩
    rw [marks_plainDate? (whole?_eq_some_iff.mp found)]
    decide

/-- A text names a local time and its offset, in one form or another. -/
def Names (s : String) (z : Zoned) : Prop := ∃ form : Form, form.read? (trim s.toList) = some z

/-- No text can be read in two ways. -/
theorem Names.unique {s : String} {z z' : Zoned} (names : Names s z) (names' : Names s z') :
    z' = z := by
  obtain ⟨form, read⟩ := names
  obtain ⟨form', read'⟩ := names'
  obtain rfl : form = form' := (Form.read?_spec read).2.symm.trans (Form.read?_spec read').2
  exact Option.some.inj (read'.symm.trans read)

theorem Names.second_lt {s : String} {z : Zoned} (names : Names s z) :
    z.localTime.time.second < TimeOfDay.secondsPerDay :=
  (Form.read?_spec names.choose_spec).1

end Calendar

namespace Moment
open Calendar

/-- The order in which the forms are tried. -/
def forms : List Form :=
  [.internet, .mail, .plain true true, .plain false true, .plain true false, .plain false false,
    .day]

theorem read?_eq (s : String) :
    read? s = forms.findSome? fun form => (form.read? (trim s.toList)).bind Zoned.utc? := by
  have plain (marked seconds : Bool) (text : List Char) :
      ((Form.plain marked seconds).read? text).bind Zoned.utc? =
        whole? (plain? (Form.separation marked) seconds text) := by
    rw [Form.read?]
    cases read : whole? (plain? (Form.separation marked) seconds text) with
    | none => rfl
    | some m =>
      obtain ⟨within, _⟩ := plain?_spec (whole?_eq_some_iff.mp read)
      exact Zoned.utc?_of_no_offset within
  have day (text : List Char) : (Form.day.read? text).bind Zoned.utc? =
      (whole? (plainDate? text)).map fun date => ⟨date, .midnight⟩ := by
    rw [Form.read?]
    cases whole? (plainDate? text) with
    | none => rfl
    | some date => exact Zoned.utc?_of_no_offset TimeOfDay.second_midnight_lt
  have first {α : Type} (f : α → Option Moment) (a : α) (rest : List α) :
      (a :: rest).findSome? f = (f a).or (rest.findSome? f) := by
    rw [List.findSome?_cons]
    cases f a <;> rfl
  simp only [read?, forms, plainForms, first, List.findSome?_nil, plain, day,
    Option.orElse_eq_orElse, Option.orElse_eq_or, Option.or_assoc, Option.or_none]
  rfl

/-- In whatever form a text names a local time, that is what is read, and nothing else is. -/
theorem read?_eq_some_iff {s : String} {m : Moment} :
    read? s = some m ↔ ∃ z, Names s z ∧ z.utc? = some m := by
  rw [read?_eq]
  constructor
  · intro found
    obtain ⟨form, _, found⟩ := List.exists_of_findSome?_eq_some found
    obtain ⟨z, read, utc⟩ := Option.bind_eq_some_iff.mp found
    exact ⟨z, ⟨form, read⟩, utc⟩
  · rintro ⟨z, ⟨form, read⟩, utc⟩
    have tried : form ∈ forms := by
      cases form with
      | plain marked seconds => cases marked <;> cases seconds <;> decide
      | _ => decide
    have found : (forms.findSome? fun form => (form.read? (trim s.toList)).bind Zoned.utc?).isSome :=
      List.findSome?_isSome_iff.mpr ⟨form, tried, by rw [read, Option.bind_some, utc]; rfl⟩
    obtain ⟨m', found⟩ := Option.isSome_iff_exists.mp found
    obtain ⟨form', _, found'⟩ := List.exists_of_findSome?_eq_some found
    obtain ⟨z', read', utc'⟩ := Option.bind_eq_some_iff.mp found'
    obtain rfl := Names.unique ⟨form, read⟩ ⟨form', read'⟩
    rw [found, ← utc, utc']

end Moment
end MatchTree
