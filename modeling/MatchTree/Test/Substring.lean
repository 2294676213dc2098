import MatchTree.Text.RangeTable
import MatchTree.Text.Utf8

/-!
Where one text occurs in another, with the case of ASCII letters told apart or not.

Without case, beginnings and ends are cut off by their number of UTF-8 bytes.
-/

set_option autoImplicit false
namespace MatchTree.Substring

def lower (text : List Char) : List Char := text.map Char.toLower

def occurs (needle : List Char) : List Char → Bool
  | [] => needle.isEmpty
  | c :: rest => needle.isPrefixOf (c :: rest) || occurs needle rest

/-- Whether a text begins with a needle. Without case, the needle is in lower case. -/
def begins (needle : List Char) (ignoreCase : Bool) (text : List Char) : Bool :=
  if ignoreCase then
    (cutAt? (utf8Length needle) text).any fun (front, _) => lower front == lower needle
  else needle.isPrefixOf text

/-- Whether a text ends with a needle. Without case, the needle is in lower case. -/
def ends (needle : List Char) (ignoreCase : Bool) (text : List Char) : Bool :=
  if ignoreCase then
    utf8Length needle ≤ utf8Length text &&
      (cutAt? (utf8Length text - utf8Length needle) text).any fun (_, back) =>
        lower back == lower needle
  else needle.isSuffixOf text

/-- Whether a text holds a needle. Without case, the needle is in lower case. -/
def contains (needle : List Char) (ignoreCase : Bool) (text : List Char) : Bool :=
  occurs needle (if ignoreCase then lower text else text)

end MatchTree.Substring
