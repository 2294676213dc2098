import MatchTree.Text.Hidden

/-!
Quoted text, as messages show strings: between double quotes, with the quote, the backslash,
NUL, tab and the line ends escaped by a letter, and hidden characters by their code point in
braces.
-/

set_option autoImplicit false
namespace MatchTree

/-- The lower-case hexadecimal digits of a number. -/
def hexDigits (n : Nat) : List Char := Nat.toDigits 16 n

/-- The escape of a character by number: a backslash, `u`, and the digits in braces. -/
def codeEscape (c : Char) : List Char :=
  '\\' :: 'u' :: '\x7b' :: (hexDigits c.toNat ++ ['\x7d'])

/-- How one character stands inside a quoted text. -/
def quoteChar (c : Char) : List Char :=
  if c = '"' ∨ c = '\\' then ['\\', c]
  else if c = '\x00' then ['\\', '0']
  else if c = '\t' then ['\\', 't']
  else if c = '\n' then ['\\', 'n']
  else if c = '\r' then ['\\', 'r']
  else if isHidden c then codeEscape c
  else [c]

def quoteChars (text : List Char) : List Char :=
  '"' :: (text.flatMap quoteChar ++ ['"'])

def quote (text : String) : String := String.ofList (quoteChars text.toList)

/-- A text between double quotes with nothing escaped. -/
def inQuotes (text : String) : String := "\"" ++ text ++ "\""

end MatchTree
