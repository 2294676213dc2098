/-!
Abbreviations of time zones, in a sorted table that is searched by halving.
-/

set_option autoImplicit false
namespace MatchTree.Zone

def abbreviations : Array String := #[
  "ACDT", "ACST", "ADT", "AEDT", "AEST", "AKDT", "AKST", "ART", "AST", "AWST", "BRT", "BST",
  "CAT", "CDT", "CEST", "CET", "CHST", "CLT", "COT", "CST", "EAT", "EDT", "EEST", "EET", "EST",
  "GMT", "GST", "HDT", "HKT", "HST", "ICT", "IDT", "IRST", "IST", "JST", "KST", "MDT", "MSK",
  "MST", "NDT", "NPT", "NST", "NZDT", "NZST", "PDT", "PET", "PHT", "PKT", "PST", "SAST", "SGT",
  "UTC", "WAT", "WEST", "WET", "WIB", "WIT", "WITA", "YDT", "YST"]

/-- Whether an ascending table lists a text at a place from `low` up to, not including,
`high`. -/
def searchSorted (table : Array String) (text : String) (low high : Nat) : Bool :=
  if _h : low < high then
    let middle := (low + high) / 2
    match table[middle]? with
    | none => false
    | some entry =>
      if entry = text then true
      else if entry < text then searchSorted table text (middle + 1) high
      else searchSorted table text low middle
  else false
  termination_by high - low

/-- An abbreviation in any case; only ASCII letters have one. -/
def isAbbreviation (text : String) : Bool :=
  let upper := String.ofList (text.toList.map Char.toUpper)
  searchSorted abbreviations upper 0 abbreviations.size

end MatchTree.Zone
