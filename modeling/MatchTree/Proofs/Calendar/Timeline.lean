import MatchTree.Calendar.Written
import MatchTree.Proofs.Calendar.Date

/-!
Points in time as numbers of nanoseconds.

A moment without a leap second lies on the timeline where its date and its time of day say, and a
local time lies where it says less its offset. To take the offset off by fields, with a carry into
the date, comes to the same, and so does to compare by fields.
-/

set_option autoImplicit false
namespace MatchTree

namespace TimeOfDay

theorem second_lt_of_ofFields? {hour minute second nano : Nat} {t : TimeOfDay}
    (read : ofFields? hour minute second nano = some t) : t.second < secondsPerDay := by
  rw [ofFields?] at read
  split at read
  case isFalse => contradiction
  case isTrue within =>
    rw [secondsPerDay]
    split at read <;> obtain rfl := Option.some.inj read <;> grind

/-- Second 60 is kept as more nanoseconds than a second has. -/
theorem nano_lt_iff_of_ofFields? {hour minute second nano : Nat} {t : TimeOfDay}
    (read : ofFields? hour minute second nano = some t) :
    t.nano < nanosPerSecond ↔ second < 60 := by
  rw [ofFields?] at read
  split at read
  case isFalse => contradiction
  case isTrue within => split at read <;> obtain rfl := Option.some.inj read <;> grind

theorem second_midnight_lt : midnight.second < secondsPerDay := by decide

theorem precedes_iff {a b : TimeOfDay} :
    a.precedes b = true ↔ a.second < b.second ∨ a.second = b.second ∧ a.nano < b.nano := by
  simp [precedes]

end TimeOfDay

namespace Moment

/-- Nanoseconds since the first day of year 1. -/
def instant (m : Moment) : Int :=
  (m.date.dayNumber * TimeOfDay.secondsPerDay + m.time.second) * TimeOfDay.nanosPerSecond +
    m.time.nano

/-- The second is one of the day, and no leap second. -/
def IsRegular (m : Moment) : Prop :=
  m.time.second < TimeOfDay.secondsPerDay ∧ m.time.nano < TimeOfDay.nanosPerSecond

variable {a b : Moment}

theorem lt_iff : a < b ↔ a.date.precedes b.date = true ∨
    a.date = b.date ∧ a.time.precedes b.time = true := by
  show a.precedes b = true ↔ _
  simp [precedes]

theorem lt_asymm (less : a < b) : ¬ b < a := by
  rw [lt_iff, Date.precedes_iff_dayNumber_lt, ← Date.dayNumber_inj, TimeOfDay.precedes_iff] at *
  omega

/-- Fields are compared from the largest to the smallest, as the digits of numbers are. -/
theorem lt_iff_instant_lt (regular : a.IsRegular) (regular' : b.IsRegular) :
    a < b ↔ a.instant < b.instant := by
  rw [lt_iff, Date.precedes_iff_dayNumber_lt, ← Date.dayNumber_inj, TimeOfDay.precedes_iff]
  simp only [IsRegular, instant, TimeOfDay.secondsPerDay, TimeOfDay.nanosPerSecond]
    at regular regular' ⊢
  omega

theorem instant_inj (regular : a.IsRegular) (regular' : b.IsRegular) :
    a.instant = b.instant ↔ a = b := by
  refine ⟨fun same => ?_, congrArg instant⟩
  obtain ⟨date, second, nano⟩ := a
  obtain ⟨date', second', nano'⟩ := b
  simp only [IsRegular, instant, TimeOfDay.secondsPerDay, TimeOfDay.nanosPerSecond]
    at regular regular' same
  obtain rfl : date = date' := Date.dayNumber_inj.mp (by omega)
  obtain rfl : second = second' := by omega
  obtain rfl : nano = nano' := by omega
  rfl

/-- An offset of less than a day moves the date by a day at most. -/
theorem minusOffset?_spec {offset : Int} (within : a.time.second < TimeOfDay.secondsPerDay)
    (small : offset.natAbs < TimeOfDay.secondsPerDay) (moved : a.minusOffset? offset = some b) :
    b.instant = a.instant - offset * TimeOfDay.nanosPerSecond ∧
      b.time.second < TimeOfDay.secondsPerDay ∧ b.time.nano = a.time.nano := by
  simp only [TimeOfDay.secondsPerDay, TimeOfDay.nanosPerSecond, instant] at within small ⊢
  simp only [minusOffset?] at moved
  split at moved
  case isTrue before =>
    obtain ⟨date, previous, rfl⟩ := Option.map_eq_some_iff.mp moved
    have earlier := Date.dayNumber_previous previous
    refine ⟨?_, ?_, rfl⟩ <;> simp only <;> omega
  case isFalse =>
    split at moved
    case isTrue after =>
      obtain ⟨date, next, rfl⟩ := Option.map_eq_some_iff.mp moved
      have later := Date.dayNumber_next next
      refine ⟨?_, ?_, rfl⟩ <;> simp only <;> omega
    case isFalse =>
      obtain rfl := Option.some.inj moved
      refine ⟨?_, ?_, rfl⟩ <;> simp only <;> omega

theorem minusOffset?_zero (within : a.time.second < TimeOfDay.secondsPerDay) :
    a.minusOffset? 0 = some a := by
  rw [TimeOfDay.secondsPerDay] at within
  simp only [minusOffset?, Int.sub_zero, Int.toNat_natCast]
  rw [if_neg (by omega), if_neg (by omega)]

end Moment

namespace Calendar.Zoned

/-- A local time less its offset. -/
def instant (z : Zoned) : Int := z.localTime.instant - z.offset * TimeOfDay.nanosPerSecond

/-- The seconds are below 60. -/
def NoLeapSecond (z : Zoned) : Prop := z.localTime.time.nano < TimeOfDay.nanosPerSecond

instance (z : Zoned) : Decidable z.NoLeapSecond := inferInstanceAs (Decidable (_ < _))

variable {z : Zoned} {m : Moment}

/-- To take the offset off leaves the point in time where it is. -/
theorem utc?_spec (regular : z.localTime.IsRegular) (found : z.utc? = some m) :
    m.IsRegular ∧ m.instant = z.instant := by
  rw [utc?] at found
  split at found
  case isFalse => contradiction
  case isTrue small =>
    obtain ⟨same, within, nano⟩ := Moment.minusOffset?_spec regular.1 small found
    exact ⟨⟨within, nano ▸ regular.2⟩, same⟩

theorem utc?_of_no_offset (within : m.time.second < TimeOfDay.secondsPerDay) :
    utc? ⟨m, 0⟩ = some m := by
  rw [utc?, if_pos (show (0 : Int).natAbs < _ by decide)]
  exact Moment.minusOffset?_zero within

end Calendar.Zoned
end MatchTree
