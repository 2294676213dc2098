import MatchTree.Calendar.Date

/-!
Points in time, to the nanosecond.

A moment is a date and a time of day without an offset. A leap second is written as second 59
with a thousand million nanoseconds or more, so it comes after the last nanosecond of its
minute and before the minute that follows.
-/

set_option autoImplicit false
namespace MatchTree

/-- The second of the day, and nanoseconds from its start. -/
structure TimeOfDay where
  second : Nat
  nano : Nat
  deriving DecidableEq, Repr

namespace TimeOfDay

def nanosPerSecond : Nat := 1000000000

def secondsPerDay : Nat := 86400

/-- Second 60 is taken in every minute. -/
def ofFields? (hour minute second nano : Nat) : Option TimeOfDay :=
  if hour < 24 ∧ minute < 60 ∧ second ≤ 60 ∧ nano < nanosPerSecond then
    if second = 60 then some ⟨3600 * hour + 60 * minute + 59, nano + nanosPerSecond⟩
    else some ⟨3600 * hour + 60 * minute + second, nano⟩
  else none

def midnight : TimeOfDay := ⟨0, 0⟩

def precedes (a b : TimeOfDay) : Bool :=
  a.second < b.second || (a.second == b.second && a.nano < b.nano)

end TimeOfDay

structure Moment where
  date : Date
  time : TimeOfDay
  deriving DecidableEq, Repr

namespace Moment

/-- Strictly earlier: by date, then by time of day. -/
def precedes (a b : Moment) : Bool :=
  a.date.precedes b.date || (a.date == b.date && a.time.precedes b.time)

instance : LT Moment := ⟨fun a b => a.precedes b = true⟩

instance (a b : Moment) : Decidable (a < b) :=
  inferInstanceAs (Decidable (a.precedes b = true))

/-- Takes an offset, of less than a day, off a local time. The date moves by a day at most. -/
def minusOffset? (m : Moment) (offset : Int) : Option Moment :=
  let second : Int := m.time.second - offset
  if second < 0 then
    m.date.previous?.map fun date => ⟨date, ⟨(second + 86400).toNat, m.time.nano⟩⟩
  else if 86400 ≤ second then
    m.date.next?.map fun date => ⟨date, ⟨(second - 86400).toNat, m.time.nano⟩⟩
  else some ⟨m.date, ⟨second.toNat, m.time.nano⟩⟩

end Moment

/-- A number with zeros in front, up to a width. -/
def paddedNat (width n : Nat) : List Char :=
  let digits := Nat.toDigits 10 n
  List.replicate (width - digits.length) '0' ++ digits

namespace Date

/-- Years of four digits stand bare, others with a sign. -/
def yearChars (year : Int) : List Char :=
  if 0 ≤ year ∧ year ≤ 9999 then paddedNat 4 year.toNat
  else (if year < 0 then '-' else '+') :: paddedNat 4 year.natAbs

def chars (d : Date) : List Char :=
  yearChars d.year ++ '-' :: (paddedNat 2 d.month ++ '-' :: paddedNat 2 d.day)

end Date

namespace TimeOfDay

/-- The shortest of three, six or nine decimals that is exact; none if there are none. -/
def fractionChars (nano : Nat) : List Char :=
  if nano = 0 then []
  else if nano % 1000000 = 0 then '.' :: paddedNat 3 (nano / 1000000)
  else if nano % 1000 = 0 then '.' :: paddedNat 6 (nano / 1000)
  else '.' :: paddedNat 9 nano

def chars (t : TimeOfDay) : List Char :=
  let second := t.second % 60 + t.nano / nanosPerSecond
  paddedNat 2 (t.second / 3600) ++ ':' :: (paddedNat 2 (t.second / 60 % 60) ++
    ':' :: (paddedNat 2 second ++ fractionChars (t.nano % nanosPerSecond)))

end TimeOfDay

namespace Moment

def text (m : Moment) : String :=
  String.ofList (m.date.chars ++ ' ' :: m.time.chars)

end Moment
end MatchTree
