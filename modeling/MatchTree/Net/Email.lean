import MatchTree.Text.RangeTable
import MatchTree.Text.Utf8

/-!
Email addresses: a local part of dotted atoms, and a domain of two or more labels, joined by
the last `@` of the text. The bounds on their lengths are in bytes.
-/

set_option autoImplicit false
namespace MatchTree.Email
open MatchTree.Substring (utf8Length)

/-- Splits at the last occurrence of a character. -/
def splitLast? (separator : Char) : List Char → Option (List Char × List Char)
  | [] => none
  | c :: rest =>
    match splitLast? separator rest with
    | some (before, after) => some (c :: before, after)
    | none => if c = separator then some ([], rest) else none

def specials : List Char := "!#$%&'*+/=?^_\x60\x7b|\x7d~.-".toList

def isLocalChar (c : Char) : Bool := c.isAlphanum || specials.contains c

/-- Whether two dots stand next to each other. -/
def hasDoubleDot : List Char → Bool
  | '.' :: '.' :: _ => true
  | _ :: rest => hasDoubleDot rest
  | [] => false

def isLocalPart (text : List Char) : Bool :=
  !text.isEmpty && utf8Length text ≤ 64 && text.head? != some '.' && text.getLast? != some '.' &&
    !hasDoubleDot text && text.all isLocalChar

def isLabel (text : List Char) : Bool :=
  !text.isEmpty && utf8Length text ≤ 63 && text.head? != some '-' && text.getLast? != some '-' &&
    text.all fun c => c.isAlphanum || c == '-'

def isDomain (text : List Char) : Bool :=
  let labels := splitChars '.' text
  utf8Length text ≤ 253 && 2 ≤ labels.length && labels.all isLabel

def isAddress (text : List Char) : Bool :=
  match splitLast? '@' text with
  | some (localPart, domain) => isLocalPart localPart && isDomain domain
  | none => false

end MatchTree.Email
