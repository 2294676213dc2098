import MatchTree.Number.Decimal
import MatchTree.Text.RangeTable

/-!
IP addresses of both versions in their text forms, without brackets, zones or prefixes.
-/

set_option autoImplicit false
namespace MatchTree.Ip

/-- An octet of one to three digits, with no zero in front of another digit. -/
def octet? (text : List Char) : Option (List Char) :=
  let digits := text.takeWhile Char.isDigit
  if digits.isEmpty || 3 < digits.length || (digits.head? == some '0' && 1 < digits.length) ||
      255 < ofDigits digits then none
  else some (text.drop digits.length)

def dot? : List Char → Option (List Char)
  | '.' :: rest => some rest
  | _ => none

/-- Four octets from the front of a text. -/
def version4? (text : List Char) : Option (List Char) := do
  let rest ← octet? text
  let rest ← octet? (← dot? rest)
  let rest ← octet? (← dot? rest)
  octet? (← dot? rest)

/-- One to four hexadecimal digits from the front of a text. -/
def group? (text : List Char) : Option (List Char) :=
  let digits := text.takeWhile isHexDigit
  if digits.isEmpty || 4 < digits.length then none else some (text.drop digits.length)

/-- The text before a group: nothing at the start, a colon later. -/
def separator? (first : Bool) (text : List Char) : Option (List Char) :=
  if first then some text
  else match text with
    | ':' :: rest => some rest
    | _ => none

/-- How many groups were read, whether the last two were in the form of version 4, and what
is left. -/
structure Groups where
  count : Nat
  embedded : Bool
  rest : List Char

/-- Reads as many groups as there are, up to a limit. The last two of them may be given in the
form of version 4. -/
def groups : (limit : Nat) → (first : Bool) → List Char → Groups
  | 0, _, text => ⟨0, false, text⟩
  | limit + 1, first, text =>
    let body := separator? first text
    let version4 := if 1 ≤ limit then body.bind version4? else none
    match version4 with
    | some rest => ⟨2, true, rest⟩
    | none =>
      match body.bind group? with
      | some rest =>
        let more := groups limit false rest
        ⟨more.count + 1, more.embedded, more.rest⟩
      | none => ⟨0, false, text⟩

/-- Eight groups, or fewer around a double colon that stands for at least one. -/
def version6? (text : List Char) : Option (List Char) :=
  let head := groups 8 true text
  if head.count = 8 then some head.rest
  else if head.embedded then none
  else match head.rest with
    | ':' :: ':' :: rest => some (groups (7 - head.count) true rest).rest
    | _ => none

def isAddress (text : List Char) : Bool :=
  version4? text == some [] || version6? text == some []

end MatchTree.Ip
