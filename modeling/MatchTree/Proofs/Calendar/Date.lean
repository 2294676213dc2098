import Mathlib.Data.Int.Init
import Mathlib.Data.Nat.Init
import Mathlib.Tactic.ByContra
import MatchTree.Calendar.Date

/-!
Dates by their numbers: a later date has the greater number, and the day after has the next one.

The number of a date is what passed before its year, before its month and before its day. Months
and years are long enough for none of these to reach into the next.
-/

set_option autoImplicit false
namespace MatchTree

/-! ## Lengths of years and months -/

def daysInYear (year : Int) : Nat := if isLeapYear year then 366 else 365

theorem isLeapYear_iff {year : Int} :
    isLeapYear year = true ↔ year % 4 = 0 ∧ (year % 100 ≠ 0 ∨ year % 400 = 0) := by
  simp [isLeapYear]

namespace Date

/-- The rule of leap years counts every day once. -/
theorem daysBeforeYear_succ (year : Int) :
    daysBeforeYear (year + 1) = daysBeforeYear year + daysInYear year := by
  simp only [daysBeforeYear, daysInYear, isLeapYear_iff]
  split <;> omega

theorem daysBeforeYear_mono {year later : Int} (le : year ≤ later) :
    daysBeforeYear year ≤ daysBeforeYear later := by
  induction later, le using Int.leInduction with
  | base => exact Int.le_refl _
  | succ later _ ih =>
    have longer := daysBeforeYear_succ later
    omega

/-- A year is over before a later one begins. -/
theorem daysBeforeYear_lt {year later : Int} (less : year < later) :
    daysBeforeYear year + daysInYear year ≤ daysBeforeYear later := by
  rw [← daysBeforeYear_succ]
  exact daysBeforeYear_mono less

theorem daysBeforeMonth_succ (year : Int) {month : Nat} (first : 1 ≤ month) :
    daysBeforeMonth year (month + 1) = daysBeforeMonth year month + daysInMonth year month := by
  obtain ⟨m, rfl⟩ := Nat.exists_eq_add_of_le' first
  rfl

/-- A month is over before a later one of its year begins. -/
theorem daysBeforeMonth_lt (year : Int) {month later : Nat} (first : 1 ≤ month)
    (less : month < later) :
    daysBeforeMonth year month + daysInMonth year month ≤ daysBeforeMonth year later := by
  rw [← daysBeforeMonth_succ year first]
  induction later, less using Nat.le_induction with
  | base => exact Nat.le_refl _
  | succ later reached ih =>
    rw [daysBeforeMonth_succ year (Nat.le_trans (Nat.succ_pos month) reached)]
    exact Nat.le_trans ih (Nat.le_add_right _ _)

/-- Twelve months are a year. -/
theorem daysBeforeMonth_end (year : Int) : daysBeforeMonth year 13 = daysInYear year := by
  cases leap : isLeapYear year <;> simp [daysBeforeMonth, daysInMonth, daysInYear, leap]

/-! ## Order -/

/-- A date lies within its year. -/
theorem day_le_daysInYear (d : Date) :
    daysBeforeMonth d.year d.month + d.day ≤ daysInYear d.year := by
  obtain ⟨_, first, last, _, within⟩ := d.valid
  have past := daysBeforeMonth_lt d.year first (Nat.lt_succ_of_le last)
  rw [daysBeforeMonth_end] at past
  omega

theorem precedes_iff {a b : Date} :
    a.precedes b = true ↔ a.year < b.year ∨
      a.year = b.year ∧ (a.month < b.month ∨ a.month = b.month ∧ a.day < b.day) := by
  simp [precedes]

theorem dayNumber_lt_of_precedes {a b : Date} (earlier : a.precedes b = true) :
    a.dayNumber < b.dayNumber := by
  obtain ⟨_, _, _, first, _⟩ := b.valid
  simp only [dayNumber]
  obtain year | ⟨year, month | ⟨month, day⟩⟩ := precedes_iff.mp earlier
  · have past := daysBeforeYear_lt year
    have inside := a.day_le_daysInYear
    omega
  · obtain ⟨_, least, _, _, within⟩ := a.valid
    have past := daysBeforeMonth_lt a.year least month
    rw [← year]
    omega
  · rw [← year, ← month]
    omega

theorem eq_or_precedes (a b : Date) : a = b ∨ a.precedes b = true ∨ b.precedes a = true := by
  obtain ⟨year, month, day, _⟩ := a
  obtain ⟨year', month', day', _⟩ := b
  simp only [precedes_iff, Date.mk.injEq]
  omega

/-- Dates stand in the order of their numbers. -/
theorem precedes_iff_dayNumber_lt {a b : Date} :
    a.precedes b = true ↔ a.dayNumber < b.dayNumber := by
  refine ⟨dayNumber_lt_of_precedes, fun less => ?_⟩
  obtain rfl | earlier | later := eq_or_precedes a b
  · exact absurd less (Int.lt_irrefl _)
  · exact earlier
  · exact absurd (dayNumber_lt_of_precedes later) (Int.lt_asymm less)

theorem dayNumber_inj {a b : Date} : a.dayNumber = b.dayNumber ↔ a = b := by
  refine ⟨fun same => ?_, congrArg dayNumber⟩
  obtain rfl | earlier | later := eq_or_precedes a b
  · rfl
  · exact absurd same (Int.ne_of_lt (dayNumber_lt_of_precedes earlier))
  · exact absurd same (Int.ne_of_gt (dayNumber_lt_of_precedes later))

/-! ## Neighbours -/

theorem ofFields?_eq_some_iff {year : Int} {month day : Nat} {d : Date} :
    ofFields? year month day = some d ↔ d.year = year ∧ d.month = month ∧ d.day = day := by
  obtain ⟨year', month', day', valid⟩ := d
  simp only [ofFields?, Option.dite_none_right_eq_some, Option.some.injEq, mk.injEq]
  constructor
  · rintro ⟨_, rfl, rfl, rfl⟩
    exact ⟨rfl, rfl, rfl⟩
  · rintro ⟨rfl, rfl, rfl⟩
    exact ⟨valid, rfl, rfl, rfl⟩

theorem ofFields?_eq_none_iff {year : Int} {month day : Nat} :
    ofFields? year month day = none ↔ ¬ IsDate year month day := by
  simp [ofFields?]

theorem daysInMonth_pos (year : Int) (month : Nat) : 1 ≤ daysInMonth year month := by
  rw [daysInMonth]
  split
  · split <;> decide
  · split <;> decide

variable {d e : Date}

theorem last_of_month (past : ¬ IsDate d.year d.month (d.day + 1)) :
    d.day = daysInMonth d.year d.month := by
  obtain ⟨inside, least, most, _, within⟩ := d.valid
  by_contra short
  exact past ⟨inside, least, most, by omega, by omega⟩

theorem last_of_year (past : ¬ IsDate d.year (d.month + 1) 1) : d.month = 12 := by
  obtain ⟨inside, least, most, _⟩ := d.valid
  by_contra short
  exact past ⟨inside, by omega, by omega, Nat.le_refl 1, daysInMonth_pos _ _⟩

theorem first_of_month (none : ¬ IsDate d.year d.month (d.day - 1)) : d.day = 1 := by
  obtain ⟨inside, least, most, first, within⟩ := d.valid
  by_contra later
  exact none ⟨inside, least, most, by omega, by omega⟩

theorem first_of_year (none : ¬ IsDate d.year (d.month - 1) (daysInMonth d.year (d.month - 1))) :
    d.month = 1 := by
  obtain ⟨inside, least, most, _⟩ := d.valid
  by_contra later
  exact none ⟨inside, by omega, by omega, daysInMonth_pos _ _, Nat.le_refl _⟩

/-- The day after is the next of the month, the first of the next month if the month is over, or
the first of the next year if the year is. -/
theorem dayNumber_next (next : d.next? = some e) : e.dayNumber = d.dayNumber + 1 := by
  obtain ⟨_, least, _⟩ := d.valid
  have month_over := daysBeforeMonth_succ d.year least
  simp only [next?, Option.orElse_eq_orElse, Option.orElse_eq_or, Option.or_eq_some_iff,
    ofFields?_eq_some_iff, ofFields?_eq_none_iff] at next
  simp only [dayNumber]
  obtain (⟨year, month, day⟩ | ⟨past, (⟨year, month, day⟩ | ⟨past', year, month, day⟩)⟩) := next
  · rw [year, month, day]
    omega
  · have last := last_of_month past
    rw [year, month, day]
    omega
  · have last := last_of_month past
    have december := last_of_year past'
    have year_over := daysBeforeYear_succ d.year
    rw [december, daysBeforeMonth_end] at month_over
    rw [year, month, day, daysBeforeMonth, december]
    rw [december] at last
    omega

theorem dayNumber_previous (previous : d.previous? = some e) : e.dayNumber = d.dayNumber - 1 := by
  obtain ⟨_, least, _, first, _⟩ := d.valid
  simp only [previous?, Option.orElse_eq_orElse, Option.orElse_eq_or, Option.or_eq_some_iff,
    ofFields?_eq_some_iff, ofFields?_eq_none_iff] at previous
  simp only [dayNumber]
  obtain (⟨year, month, day⟩ | ⟨none, (⟨year, month, day⟩ | ⟨none', year, month, day⟩)⟩) :=
    previous
  · have counted := e.valid.2.2.2.1
    rw [year, month, day]
    omega
  · have start := first_of_month none
    have counted := e.valid.2.1
    have month_over := daysBeforeMonth_succ d.year (month ▸ counted)
    rw [Nat.sub_add_cancel least] at month_over
    rw [year, month, day]
    omega
  · have start := first_of_month none
    have january := first_of_year none'
    have year_over := daysBeforeYear_succ (d.year - 1)
    have december : daysBeforeMonth (d.year - 1) 12 + 31 = daysInYear (d.year - 1) :=
      daysBeforeMonth_end _
    rw [Int.sub_add_cancel] at year_over
    rw [year, month, day, january, start, daysBeforeMonth]
    omega

end Date
end MatchTree
