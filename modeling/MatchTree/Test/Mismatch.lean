import MatchTree.Value.Text
import MatchTree.Calendar.Moment
import MatchTree.Net.Url

/-!
Why a value does not match, and the one wording of each reason.
-/

set_option autoImplicit false
namespace MatchTree

inductive Mismatch
  | notString (v : Value)
  | notNumber (v : Value)
  | notArray (v : Value)
  | notObject (v : Value)
  | notDate (v : Value)
  | noStart (v : Value) (needle : String)
  | noEnd (v : Value) (needle : String)
  | noPart (v : Value) (needle : String)
  | hasPart (v : Value) (needle : String)
  | noRegexMatch (v : Value) (regex : String)
  | notGreater (v : Value) (bound : Finite)
  | notLower (v : Value) (bound : Finite)
  | noItem (v needle : Value)
  | wrongCount (v : Value) (count expected : Nat)
  | noProperty (v : Value) (key : String)
  | isFilled (v : Value)
  | isBare (v : Value)
  | notEmail (v : Value)
  | notUrl (v : Value) (fault : Url.Fault)
  | notIp (v : Value)
  | notAfter (v : Value) (bound : Moment)
  | notBefore (v : Value) (bound : Moment)
  | notOffset (v : Value)
  | notAbbreviation (v : Value)
  | notIdentifier (v : Value)
  | missingKey (key : String) (v : Value)
  | extraKey (key : String) (v : Value)
  | wrongLength (v : Value) (count expected : Nat)
  | differs (v pattern : Value)
  | atKey (key : String) (inner : Mismatch)
  | atIndex (index : Nat) (inner : Mismatch)
  | atItem (index : Nat) (error : String)
  | rejected (v : Value) (expander : String)
  | noneMatched (errors : List String)
  deriving Repr

namespace Mismatch

/-- The text of a number. -/
def numberText (x : Finite) : String := (Double.finite x).text

def message : Mismatch → String
  | notString v => s!"{v.typeName} {inQuotes v.text} is not a valid string"
  | notNumber v => s!"value {v.text} is not a valid number"
  | notArray v => s!"{v.typeName} {v.text} is not a valid array"
  | notObject v => s!"{v.typeName} {v.text} is not a valid object"
  | notDate v => s!"value {v.text} is not a valid date"
  | noStart v needle => s!"string {v.text} doesn't start with {inQuotes needle}"
  | noEnd v needle => s!"string {v.text} doesn't end with {inQuotes needle}"
  | noPart v needle => s!"string {v.text} doesn't contain {inQuotes needle}"
  | hasPart v needle => s!"string {v.text} contains {inQuotes needle}"
  | noRegexMatch v regex => s!"string {v.text} doesn't match pattern {inQuotes regex}"
  | notGreater v bound => s!"value {v.text} is not greater than {numberText bound}"
  | notLower v bound => s!"value {v.text} is not lower than {numberText bound}"
  | noItem v needle => s!"array {v.text} doesn't contain {needle.text}"
  | wrongCount v count expected =>
    s!"{v.typeName} {v.text} has {count} elements, expected {expected}"
  | noProperty v key => s!"object {v.text} has no property {inQuotes key}"
  | isFilled v => s!"value {v.text} is not empty"
  | isBare v => s!"value {v.text} is empty"
  | notEmail v => s!"string {v.text} is not a valid email address"
  | notUrl v fault => s!"string {v.text} is not a valid URL: {fault.message}"
  | notIp v => s!"string {v.text} is not a valid IP address"
  | notAfter v bound => s!"date {v.text} is not after {bound.text}"
  | notBefore v bound => s!"date {v.text} is not before {bound.text}"
  | notOffset v => s!"string {v.text} is not a valid timezone offset"
  | notAbbreviation v => s!"string {v.text} is not a valid timezone abbreviation"
  | notIdentifier v => s!"string {v.text} is not a valid timezone identifier"
  | missingKey key v => s!"missing key {inQuotes key} in {v.text}"
  | extraKey key v => s!"unexpected key {inQuotes key} in {v.text}"
  | wrongLength v count expected => s!"array {v.text} has {count} elements, expected {expected}"
  | differs v pattern => s!"value {v.text} does not match {pattern.text}"
  | atKey key inner => s!"at key {inQuotes key}: {inner.message}"
  | atIndex index inner => s!"at index {index}: {inner.message}"
  | atItem index error => s!"repeat element {index}: {error}"
  | rejected v expander => s!"value {v.text} does not match #{expander}"
  | noneMatched errors => "none of the expanders matched: " ++ "; ".intercalate errors

end Mismatch
end MatchTree
