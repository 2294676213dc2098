import MatchTree.Test.Structure
import MatchTree.Test.Substring
import MatchTree.Regex.Search
import MatchTree.Calendar.Written
import MatchTree.Net.Email
import MatchTree.Net.Ip
import MatchTree.Zone.Abbreviation
import MatchTree.Zone.Identifier
import MatchTree.Zone.Offset

/-!
The tests that look at a value by themselves, without other expanders.
-/

set_option autoImplicit false
namespace MatchTree

inductive Test
  | startsWith (needle : String) (ignoreCase : Bool)
  | endsWith (needle : String) (ignoreCase : Bool)
  | contains (needle : String) (ignoreCase : Bool)
  | notContains (needle : String) (ignoreCase : Bool)
  | matchRegex (regex : Regex)
  | greaterThan (bound : Finite)
  | lowerThan (bound : Finite)
  | inArray (needle : Value)
  | count (expected : Nat)
  | isEmpty
  | isNotEmpty
  | optional
  | hasProperty (key : String)
  | isEmail
  | isUrl
  | isIp
  | isDateTime
  | after (bound : Moment)
  | before (bound : Moment)
  | isTzOffset
  | isTzAbbreviation
  | isTzIdentifier
  deriving Repr

namespace Test

/-- The name a test reports under. -/
def title : Test → String
  | startsWith _ _ => "startsWith"
  | endsWith _ _ => "endsWith"
  | contains _ _ => "contains"
  | notContains _ _ => "notContains"
  | matchRegex _ => "matchRegex"
  | greaterThan _ => "greaterThan"
  | lowerThan _ => "lowerThan"
  | inArray _ => "inArray"
  | count _ => "count"
  | isEmpty => "isEmpty"
  | isNotEmpty => "isNotEmpty"
  | optional => "optional"
  | hasProperty _ => "hasProperty"
  | isEmail => "isEmail"
  | isUrl => "isUrl"
  | isIp => "isIp"
  | isDateTime => "isDateTime"
  | after _ => "after"
  | before _ => "before"
  | isTzOffset => "isTzOffset"
  | isTzAbbreviation => "isTzAbbreviation"
  | isTzIdentifier => "isTzIdentifier"

/-- Accepts where a condition holds. -/
def require (condition : Bool) (otherwise : Mismatch) : Except Mismatch Unit :=
  if condition then .ok () else .error otherwise

def textOf (v : Value) : Except Mismatch String :=
  match v with
  | .string s => .ok s
  | v => .error (.notString v)

def numberOf (v : Value) : Except Mismatch Finite :=
  match v.asNumber with
  | some x => .ok x
  | none => .error (.notNumber v)

def momentOf (v : Value) : Except Mismatch Moment := do
  match Moment.read? (← textOf v) with
  | some m => return m
  | none => throw (.notDate v)

def itemsOf (v : Value) : Except Mismatch (List Value) :=
  match v with
  | .array items => .ok items
  | v => .error (.notArray v)

def check (test : Test) (v : Value) : Except Mismatch Unit :=
  match test with
  | startsWith needle ignoreCase => do
    let s ← textOf v
    require (Substring.begins needle.toList ignoreCase s.toList) (.noStart v needle)
  | endsWith needle ignoreCase => do
    let s ← textOf v
    require (Substring.ends needle.toList ignoreCase s.toList) (.noEnd v needle)
  | contains needle ignoreCase => do
    let s ← textOf v
    require (Substring.contains needle.toList ignoreCase s.toList) (.noPart v needle)
  | notContains needle ignoreCase => do
    let s ← textOf v
    require (!Substring.contains needle.toList ignoreCase s.toList) (.hasPart v needle)
  | matchRegex regex => do
    let s ← textOf v
    require (regex.isMatch s) (.noRegexMatch v regex.source)
  | greaterThan bound => do
    let x ← numberOf v
    require (bound < x) (.notGreater v bound)
  | lowerThan bound => do
    let x ← numberOf v
    require (x < bound) (.notLower v bound)
  | inArray needle => do
    let items ← itemsOf v
    require (items.any fun item => item.looselyEquals needle) (.noItem v needle)
  | count expected =>
    match v with
    | .array items => require (items.length == expected) (.wrongCount v items.length expected)
    | .object fields => require (fields.length == expected) (.wrongCount v fields.length expected)
    | v => .error (.notArray v)
  | isEmpty => require v.isEmpty (.isFilled v)
  | isNotEmpty => require (!v.isEmpty) (.isBare v)
  | optional => .ok ()
  | hasProperty key =>
    match v with
    | .object fields => require (Table.contains fields key) (.noProperty v key)
    | v => .error (.notObject v)
  | isEmail => do
    let s ← textOf v
    require (Email.isAddress s.toList) (.notEmail v)
  | isUrl => do
    let s ← textOf v
    (Url.check s.toList).mapError (.notUrl v)
  | isIp => do
    let s ← textOf v
    require (Ip.isAddress s.toList) (.notIp v)
  | isDateTime => do
    let _ ← momentOf v
    return ()
  | after bound => do
    let m ← momentOf v
    require (bound < m) (.notAfter v bound)
  | before bound => do
    let m ← momentOf v
    require (m < bound) (.notBefore v bound)
  | isTzOffset => do
    let s ← textOf v
    require (Zone.isOffset s.toList) (.notOffset v)
  | isTzAbbreviation => do
    let s ← textOf v
    require (Zone.isAbbreviation s) (.notAbbreviation v)
  | isTzIdentifier => do
    let s ← textOf v
    require (Zone.isIdentifier s) (.notIdentifier v)

end Test
end MatchTree
