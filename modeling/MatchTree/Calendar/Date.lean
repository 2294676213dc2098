/-!
Dates of the Gregorian calendar, extended to all years in both directions.

A date is valid by its type. The neighbours of a date are found by trying the next day of the
month, the next month and the next year in turn, so the lengths of months are stated once.
-/

set_option autoImplicit false
namespace MatchTree

def isLeapYear (year : Int) : Bool :=
  year % 4 == 0 && (year % 100 != 0 || year % 400 == 0)

def daysInMonth (year : Int) (month : Nat) : Nat :=
  if month = 2 then (if isLeapYear year then 29 else 28)
  else if month = 4 ∨ month = 6 ∨ month = 9 ∨ month = 11 then 30
  else 31

/-- The years that dates are given for. -/
def IsYear (year : Int) : Prop := -262143 ≤ year ∧ year ≤ 262142

instance (year : Int) : Decidable (IsYear year) :=
  inferInstanceAs (Decidable (_ ∧ _))

def IsDate (year : Int) (month day : Nat) : Prop :=
  IsYear year ∧ 1 ≤ month ∧ month ≤ 12 ∧ 1 ≤ day ∧ day ≤ daysInMonth year month

instance (year : Int) (month day : Nat) : Decidable (IsDate year month day) :=
  inferInstanceAs (Decidable (_ ∧ _))

structure Date where
  year : Int
  month : Nat
  day : Nat
  valid : IsDate year month day
  deriving DecidableEq, Repr

namespace Date

def ofFields? (year : Int) (month day : Nat) : Option Date :=
  if valid : IsDate year month day then some ⟨year, month, day, valid⟩ else none

/-- The day after; there is none after the last year. -/
def next? (d : Date) : Option Date :=
  ofFields? d.year d.month (d.day + 1) <|> ofFields? d.year (d.month + 1) 1 <|>
    ofFields? (d.year + 1) 1 1

/-- The day before; there is none before the first year. -/
def previous? (d : Date) : Option Date :=
  ofFields? d.year d.month (d.day - 1) <|>
    ofFields? d.year (d.month - 1) (daysInMonth d.year (d.month - 1)) <|>
    ofFields? (d.year - 1) 12 31

/-- Days from the first day of year 1 to the first day of a year. -/
def daysBeforeYear (year : Int) : Int :=
  let years := year - 1
  365 * years + years / 4 - years / 100 + years / 400

/-- Days from the first day of a year to the first day of a month. -/
def daysBeforeMonth (year : Int) : Nat → Nat
  | 0 | 1 => 0
  | month + 1 => daysBeforeMonth year month + daysInMonth year month

/-- Counts the days; the first day of year 1 has number 0 and is a Monday. -/
def dayNumber (d : Date) : Int :=
  daysBeforeYear d.year + daysBeforeMonth d.year d.month + (d.day - 1)

/-- Days since the last Monday. -/
def weekday (d : Date) : Int := d.dayNumber % 7

/-- Earlier by year, then month, then day. -/
def precedes (a b : Date) : Bool :=
  a.year < b.year || (a.year == b.year &&
    (a.month < b.month || (a.month == b.month && a.day < b.day)))

end Date
end MatchTree
