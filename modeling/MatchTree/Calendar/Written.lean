import MatchTree.Calendar.Moment
import MatchTree.Calendar.Field

/-!
The written forms of dates: the Internet form with an offset, the form of mail headers, and
plain dates with or without a time of day, which stand for UTC. `Moment.read?` tries them in
this order on the text without its outer white space.
-/

set_option autoImplicit false
namespace MatchTree.Calendar

/-- A local time with its offset from UTC in seconds. -/
structure Zoned where
  localTime : Moment
  offset : Int
  deriving DecidableEq, Repr

/-- The same point in time at UTC. Offsets of a day or more are refused. -/
def Zoned.utc? (z : Zoned) : Option Moment :=
  if z.offset.natAbs < TimeOfDay.secondsPerDay then z.localTime.minusOffset? z.offset else none

/-- A sign, hours, and minutes after `between`. -/
def signedOffset? (between : List Char → Option (List Char)) (typographic : Bool) :
    List Char → Option (Int × List Char)
  | sign :: rest => do
    let negative ←
      if sign = '+' then some false
      else if sign = '-' ∨ (typographic ∧ sign = '\u2212') then some true
      else none
    let (hours, rest) ← fixed? 2 rest
    let rest ← between rest
    let (minutes, rest) ← sixties? rest
    let size : Int := 3600 * hours + 60 * minutes
    return (if negative then -size else size, rest)
  | [] => none

def isDateTimeMark (c : Char) : Bool := c == 'T' || c == 't' || c == ' '

/-- The Internet form, such as `2024-03-01T12:30:45.5+01:00`. -/
def internet? (text : List Char) : Option (Zoned × List Char) := do
  let (year, rest) ← fixed? 4 text
  let (month, rest) ← fixed? 2 (← char? '-' rest)
  let (day, rest) ← fixed? 2 (← char? '-' rest)
  let date ← Date.ofFields? year month day
  let mark ← rest.head?
  if !isDateTimeMark mark then none
  else
    let (hour, rest) ← fixed? 2 (rest.drop 1)
    let (minute, rest) ← fixed? 2 (← char? ':' rest)
    let (second, rest) ← fixed? 2 (← char? ':' rest)
    let (nano, rest) ← fraction? rest
    let time ← TimeOfDay.ofFields? hour minute second nano
    match rest with
    | 'Z' :: rest | 'z' :: rest => return (⟨⟨date, time⟩, 0⟩, rest)
    | rest =>
      let (offset, rest) ← signedOffset? (char? ':') true rest
      return (⟨⟨date, time⟩, offset⟩, rest)

def weekdayNames : List (List Char) :=
  ["mon", "tue", "wed", "thu", "fri", "sat", "sun"].map String.toList

def monthNames : List (List Char) :=
  ["jan", "feb", "mar", "apr", "may", "jun", "jul", "aug", "sep", "oct", "nov", "dec"].map
    String.toList

/-- A day of the week and a comma. A text that begins otherwise names none. -/
def weekdayPart? (text : List Char) : Option (Option Nat × List Char) :=
  match word? weekdayNames text with
  | some (day, rest) => (char? ',' rest).map fun rest => (some day, rest)
  | none => some (none, text)

/-- Years of two digits lie between 1950 and 2049, those of three count from 1900. -/
def mailYear (digits year : Nat) : Nat :=
  if digits = 2 then (if year < 50 then year + 2000 else year + 1900)
  else if digits = 3 then year + 1900
  else year

/-- The zones with a name, in hours from UTC. -/
def namedZones : List (String × Int) :=
  [("gmt", 0), ("ut", 0), ("z", 0), ("edt", -4), ("est", -5), ("cdt", -5), ("cst", -6),
    ("mdt", -6), ("mst", -7), ("pdt", -7), ("pst", -8)]

/-- A zone by name or by offset. A single letter other than J is taken as UTC. -/
def mailZone? (text : List Char) : Option (Int × List Char) :=
  let name := text.takeWhile Char.isAlpha
  let rest := text.drop name.length
  if name.isEmpty then signedOffset? some false text
  else
    let lower := name.map Char.toLower
    match namedZones.lookup (String.ofList lower) with
    | some hours => some (3600 * hours, rest)
    | none => if lower.length = 1 ∧ lower ≠ ['j'] then some (0, rest) else none

/-- Skips on to the end of a comment that is open `depth` times. -/
def commentEnd? : (depth : Nat) → (escaped : Bool) → List Char → Option (List Char)
  | _, _, [] => none
  | depth, true, _ :: rest => commentEnd? depth false rest
  | depth, false, c :: rest =>
    if c = '\\' then commentEnd? depth true rest
    else if c = '(' then commentEnd? (depth + 1) false rest
    else if c = ')' then (if depth ≤ 1 then some rest else commentEnd? (depth - 1) false rest)
    else commentEnd? depth false rest

/-- Skips comments, each after optional white space. The fuel is the text's length. -/
def skipComments : Nat → List Char → List Char
  | 0, text => text
  | fuel + 1, text =>
    match trimStart text with
    | '(' :: rest =>
      match commentEnd? 1 false rest with
      | some rest => skipComments fuel rest
      | none => text
    | _ => text

/-- Seconds, after a colon; without one there are none. -/
def mailSeconds? (text : List Char) : Option (Nat × List Char) :=
  match char? ':' (trimStart text) with
  | some rest => fixed? 2 rest
  | none => some (0, text)

/-- The form of mail headers, such as `Fri, 1 Mar 2024 12:30:45 +0100`. -/
def mail? (text : List Char) : Option (Zoned × List Char) := do
  let (weekday, rest) ← weekdayPart? (trimStart text)
  let (day, rest) ← number? 1 (some 2) (trimStart rest)
  let (month, rest) ← word? monthNames (← blanks? rest)
  let yearText ← blanks? rest
  let (year, rest) ← number? 2 none yearText
  let (hour, rest) ← fixed? 2 (← blanks? rest)
  let rest ← char? ':' (trimStart rest)
  let (minute, rest) ← fixed? 2 (trimStart rest)
  let (second, rest) ← mailSeconds? rest
  let (offset, rest) ← mailZone? (← blanks? rest)
  let digits := (yearText.takeWhile Char.isDigit).length
  let date ← Date.ofFields? (mailYear digits year) (month + 1) day
  let time ← TimeOfDay.ofFields? hour minute second 0
  if weekday.all fun w => (w : Int) == date.weekday then
    return (⟨⟨date, time⟩, offset⟩, skipComments rest.length rest)
  else none

/-- A year: any number of digits after a sign, at most four without. -/
def year? (text : List Char) : Option (Int × List Char) :=
  match text with
  | '-' :: rest => (number? 1 none rest).map fun (n, rest) => (-(n : Int), rest)
  | '+' :: rest => (number? 1 none rest).map fun (n, rest) => ((n : Int), rest)
  | rest => (number? 1 (some 4) rest).map fun (n, rest) => ((n : Int), rest)

/-- A field of one or two digits, after optional white space. -/
def short? (text : List Char) : Option (Nat × List Char) :=
  number? 1 (some 2) (trimStart text)

def plainDate? (text : List Char) : Option (Date × List Char) := do
  let (year, rest) ← year? (trimStart text)
  let (month, rest) ← short? (← char? '-' rest)
  let (day, rest) ← short? (← char? '-' rest)
  return (← Date.ofFields? year month day, rest)

/-- A time of day; with seconds, a fraction may follow. -/
def plainTime? (seconds : Bool) (text : List Char) : Option (TimeOfDay × List Char) := do
  let (hour, rest) ← short? text
  let (minute, rest) ← short? (← char? ':' rest)
  if seconds then
    let (second, rest) ← short? (← char? ':' rest)
    let (nano, rest) ← fraction? rest
    return (← TimeOfDay.ofFields? hour minute second nano, rest)
  else
    return (← TimeOfDay.ofFields? hour minute 0 0, rest)

/-- A date and a time of day, with the given separation. -/
def plain? (separation : List Char → Option (List Char)) (seconds : Bool)
    (text : List Char) : Option (Moment × List Char) := do
  let (date, rest) ← plainDate? text
  let (time, rest) ← plainTime? seconds (← separation rest)
  return (⟨date, time⟩, rest)

/-- The result of a reader that took the whole text. -/
def whole? {α : Type} (result : Option (α × List Char)) : Option α :=
  match result with
  | some (a, []) => some a
  | _ => none

end MatchTree.Calendar

namespace MatchTree.Moment
open Calendar

/-- A mark between date and time, or any white space, even none. -/
def plainForms : List ((List Char → Option (List Char)) × Bool) :=
  [(char? 'T', true), (fun text => some (trimStart text), true),
    (char? 'T', false), (fun text => some (trimStart text), false)]

/-- The point in time that a text names, at UTC. -/
def read? (text : String) : Option Moment :=
  let text := trim text.toList
  (whole? (internet? text)).bind Zoned.utc? <|>
    (whole? (mail? text)).bind Zoned.utc? <|>
    plainForms.findSome? (fun form => whole? (plain? form.1 form.2 text)) <|>
    (whole? (plainDate? text)).map fun date => ⟨date, .midnight⟩

end MatchTree.Moment
