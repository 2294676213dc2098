/-!
Texts by their UTF-8 bytes: how many there are, and cuts after a number of them. A place inside a
character is no place to cut.
-/

set_option autoImplicit false
namespace MatchTree.Substring

def utf8 (text : List Char) : List UInt8 := text.flatMap String.utf8EncodeChar

def utf8Length (text : List Char) : Nat :=
  text.foldr (fun c length => c.utf8Size + length) 0

/-- Cuts a text after so many bytes, if that is between two characters. -/
def cutAt? : Nat → List Char → Option (List Char × List Char)
  | 0, text => some ([], text)
  | _ + 1, [] => none
  | count + 1, c :: rest =>
    if c.utf8Size ≤ count + 1 then
      (cutAt? (count + 1 - c.utf8Size) rest).map fun (front, back) => (c :: front, back)
    else none

end MatchTree.Substring
