import MatchTree.Net.HostName.Label

/-!
Absolute URLs: a scheme, for most schemes an authority with a host, and whatever follows.

Only the scheme and the authority can be wrong. The host of one of the special schemes is a
domain name, an IPv4 address if its last label is a number, or an IPv6 address in brackets;
other schemes take any host without forbidden characters.
-/

set_option autoImplicit false
namespace MatchTree.Url

inductive Fault
  | emptyHost
  | hostName
  | hostCharacter
  | port
  | version4
  | version6
  | noScheme
  deriving DecidableEq, Repr

def Fault.message : Fault → String
  | .emptyHost => "empty host"
  | .hostName => "invalid international domain name"
  | .hostCharacter => "invalid domain character"
  | .port => "invalid port number"
  | .version4 => "invalid IPv4 address"
  | .version6 => "invalid IPv6 address"
  | .noScheme => "relative URL without a base"

inductive Scheme
  | file
  | special
  | other
  deriving DecidableEq, Repr

def Scheme.ofName (name : String) : Scheme :=
  if name = "file" then .file
  else if name ∈ ["http", "https", "ws", "wss", "ftp"] then .special
  else .other

/-- Controls and spaces at both ends do not count, and tabs and line ends nowhere. -/
def tidy (text : List Char) : List Char :=
  let strip (text : List Char) := text.dropWhile fun c => c.toNat ≤ 0x20
  let inner := (strip (strip text).reverse).reverse
  inner.filter fun c => c != '\t' && c != '\n' && c != '\r'

/-- The scheme, up to the colon that ends it. -/
def scheme? (text : List Char) : Option (Scheme × List Char) :=
  let name := text.takeWhile fun c => c.isAlphanum || c == '+' || c == '-' || c == '.'
  match name.head?, text.drop name.length with
  | some first, ':' :: rest =>
    if first.isAlpha then some (.ofName (String.ofList (name.map Char.toLower)), rest) else none
  | _, _ => none

/-- One part of a dotted number: decimal, or octal after 0, or hexadecimal after 0x. -/
inductive Numeral
  | number (n : Nat)
  | tooLarge
  | none
  deriving DecidableEq, Repr

def numeralOf (base : Nat) (valid : Char → Bool) (digits : List Char) : Numeral :=
  if !digits.all valid then .none
  else
    let n := digits.foldl (fun total c => base * total + (hexDigit? c).getD 0) 0
    if n < 2 ^ 32 then .number n else .tooLarge

def numeral (text : List Char) : Numeral :=
  match text with
  | [] => .none
  | '0' :: 'x' :: digits | '0' :: 'X' :: digits => numeralOf 16 isHexDigit digits
  | '0' :: d :: digits => numeralOf 8 (fun c => '0' ≤ c && c ≤ '7') (d :: digits)
  | digits => numeralOf 10 Char.isDigit digits

/-- Whether the last label, an empty one at the end apart, is a number. -/
def endsInNumber (host : List Char) : Bool :=
  let last := match (splitChars '.' host).reverse with
    | [] :: last :: _ => last
    | last :: _ => last
    | [] => []
  (!last.isEmpty && last.all Char.isDigit) || numeral last != .none

/-- All parts but the last are bytes; the last fills the bytes that are left. -/
def checkVersion4 (host : List Char) : Except Fault Unit :=
  let parts := splitChars '.' host
  let parts := if parts.getLast? = some [] then parts.dropLast else parts
  let numbers := parts.filterMap fun part =>
    match numeral part with
    | .number n => some n
    | _ => none
  let leading := numbers.dropLast
  if parts.length ≤ 4 && numbers.length == parts.length && leading.all (· ≤ 255) &&
      numbers.getLast?.any (fun last => last < 2 ^ (8 * (4 - leading.length))) then .ok ()
  else .error .version4

/-- The digits of one byte, in which no zero stands before another digit. -/
def isByte (text : List Char) : Bool :=
  !text.isEmpty && text.all Char.isDigit && (text.length == 1 || text.head? != some '0') &&
    text.length ≤ 3 && (text.foldl (fun total c => 10 * total + (c.toNat - '0'.toNat)) 0) ≤ 255

/-- Four bytes at the end of an IPv6 address. -/
def isDotted (text : List Char) : Bool :=
  let parts := splitChars '.' text
  parts.length == 4 && parts.all isByte

/-- Reads the pieces of an IPv6 address from the given place on; gives the number of pieces and
whether some were left out. The fuel is the text's length. -/
def pieces? : Nat → (place : Nat) → (compressed : Bool) → List Char → Option (Nat × Bool)
  | _, place, compressed, [] => some (place, compressed)
  | 0, _, _, _ => none
  | fuel + 1, place, compressed, text =>
    if place = 8 then none
    else match text with
      | ':' :: rest => if compressed then none else pieces? fuel (place + 1) true rest
      | _ =>
        let digits := (text.take 4).takeWhile isHexDigit
        match text.drop digits.length with
        | [] => some (place + 1, compressed)
        | '.' :: _ =>
          if digits.isEmpty || 6 < place || !isDotted text then none
          else some (place + 2, compressed)
        | ':' :: rest => if rest.isEmpty then none else pieces? fuel (place + 1) compressed rest
        | _ => none

/-- Eight pieces, or fewer with a double colon somewhere. -/
def checkVersion6 (text : List Char) : Except Fault Unit :=
  let result := match text with
    | [] | [_] => none
    | ':' :: ':' :: rest => pieces? rest.length 1 true rest
    | ':' :: _ => none
    | _ => pieces? text.length 0 false text
  match result with
  | some (count, compressed) => if compressed || count == 8 then .ok () else .error .version6
  | none => .error .version6

/-- The byte that a percent sign and two hexadecimal digits stand for. -/
def escapedByte? : List UInt8 → Option UInt8
  | 0x25 :: high :: low :: _ => do
    let high ← hexDigit? (Char.ofNat high.toNat)
    let low ← hexDigit? (Char.ofNat low.toNat)
    return UInt8.ofNat (16 * high + low)
  | _ => none

/-- Undoes percent-encoding; `skipped` bytes belong to an escape that was read before. -/
def percentDecode : (skipped : Nat) → List UInt8 → List UInt8
  | _, [] => []
  | skipped + 1, _ :: rest => percentDecode skipped rest
  | 0, byte :: rest =>
    match escapedByte? (byte :: rest) with
    | some decoded => decoded :: percentDecode 2 rest
    | none => byte :: percentDecode 0 rest

/-- The content of a bracketed host, if the host begins with a bracket. -/
def bracketed? (host : List Char) : Option (Except Fault (List Char)) :=
  match host with
  | '[' :: rest =>
    some (if rest.getLast? = some ']' then .ok rest.dropLast else .error .version6)
  | _ => none

/-- A domain name or an address; gives the name's labels, none for an address. -/
def checkDomain (host : List Char) : Except Fault (List (List Char)) := do
  match bracketed? host with
  | some inner =>
    checkVersion6 (← inner)
    return []
  | none =>
    let bytes := percentDecode 0 (String.ofList host).toUTF8.toList
    match String.fromUTF8? ⟨bytes.toArray⟩ with
    | none => throw .hostName
    | some host =>
      match HostName.labels? (host.toList.map Char.toNat) with
      | none => throw .hostName
      | some labels =>
        let labels := labels.map fun label => label.map Char.ofNat
        let name := (labels.intersperse ['.']).flatten
        if name.isEmpty then throw .emptyHost
        if endsInNumber name then
          checkVersion4 name
          return []
        return labels

def isForbiddenInOpaque (c : Char) : Bool :=
  c == '\x00' || "\t\n\r #/:<>?@[\\]^|".toList.contains c

def checkOpaque (host : List Char) : Except Fault Unit := do
  match bracketed? host with
  | some inner => checkVersion6 (← inner)
  | none => if host.any isForbiddenInOpaque then throw .hostCharacter

def endsAuthority (special : Bool) (c : Char) : Bool :=
  c == '/' || c == '?' || c == '#' || (special && c == '\\')

/-- Splits off the credentials before the last `@` of the authority; `true` if there are
any. -/
def credentials? (special : Bool) (text : List Char) : Except Fault (Bool × List Char) :=
  let authority := text.takeWhile fun c => !endsAuthority special c
  let after := (authority.reverse.takeWhile (· ≠ '@')).reverse
  if after.length = authority.length then .ok (false, text)
  else
    let before := authority.take (authority.length - after.length - 1)
    let rest := text.drop (before.length + 1)
    if before.isEmpty then
      if rest.head?.any (endsAuthority special) then .error .emptyHost else .ok (false, rest)
    else .ok (before != [':'], rest)

/-- The host, up to a colon outside brackets or the end of the authority. -/
def splitHost (special : Bool) : (inBrackets : Bool) → List Char → List Char × List Char
  | _, [] => ([], [])
  | inBrackets, c :: rest =>
    if endsAuthority special c || (c == ':' && !inBrackets) then ([], c :: rest)
    else
      let (host, after) := splitHost special (c == '[' || (inBrackets && c != ']')) rest
      (c :: host, after)

/-- Digits up to 65535, then the end of the authority. -/
def checkPort (text : List Char) : Except Fault Unit :=
  let digits := text.takeWhile Char.isDigit
  let port := digits.foldl (fun total c => 10 * total + (c.toNat - '0'.toNat)) 0
  let rest := text.drop digits.length
  if 65535 < port || rest.head?.any (fun c => !endsAuthority true c) then .error .port
  else .ok ()

/-- Credentials, host and port, from after the two slashes. -/
def checkAuthority (special : Bool) (text : List Char) : Except Fault Unit := do
  let (hasCredentials, rest) ← credentials? special text
  let (host, rest) := splitHost special false rest
  if host.isEmpty && (special || hasCredentials || rest.head? == some ':') then
    throw .emptyHost
  if special then discard (checkDomain host) else checkOpaque host
  match rest with
  | ':' :: port => checkPort port
  | _ => return ()

def isDriveLetter : List Char → Bool
  | [c, mark] => c.isAlpha && (mark == ':' || mark == '|')
  | _ => false

/-- The host of a file, which may be missing, or a drive letter in its place. -/
def checkFile (text : List Char) : Except Fault Unit :=
  let isSlash (c : Char) : Bool := c == '/' || c == '\\'
  match text with
  | first :: second :: rest =>
    if isSlash first && isSlash second then
      let host := rest.takeWhile fun c => !endsAuthority true c
      if host.isEmpty || isDriveLetter host then .ok () else discard (checkDomain host)
    else .ok ()
  | _ => .ok ()

def check (text : List Char) : Except Fault Unit :=
  match scheme? (tidy text) with
  | none => .error .noScheme
  | some (.file, rest) => checkFile rest
  | some (.special, rest) => checkAuthority true (rest.dropWhile fun c => c == '/' || c == '\\')
  | some (.other, rest) =>
    match rest with
    | '/' :: '/' :: rest => checkAuthority false rest
    | _ => .ok ()

end MatchTree.Url
