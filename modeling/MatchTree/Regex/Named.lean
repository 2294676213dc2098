import MatchTree.Regex.CharSet
import MatchTree.Regex.Pattern
import MatchTree.Text.Category
import MatchTree.Text.Property
import MatchTree.Text.Script

/-!
Classes with a name: those with a letter of their own, the ASCII ones, and the properties of
characters, which are looked up with case, blanks, hyphens and underscores put aside.
-/

set_option autoImplicit false
namespace MatchTree.Regex

def categories (tables : List RangeTable) : CharSet :=
  CharSet.unions (tables.map CharSet.ofTable)

def digits : CharSet := .ofTable Category.decimalNumber

def spaces : CharSet := .ofTable Property.whiteSpace

/-- Letters, marks, decimal digits, connectors, and the two joining controls. -/
def wordChars : CharSet :=
  categories [Property.alphabetic, Category.nonspacingMark, Category.spacingMark,
    Category.enclosingMark, Category.decimalNumber, Category.connectorPunctuation,
    Property.joinControl]

def wordTable : RangeTable := wordChars.ranges.toArray

def isWordChar (c : Char) : Bool :=
  if c.toNat < 0x80 then c.isAlphanum || c == '_' else wordTable.contains c.toNat

def isAsciiWordChar (c : Char) : Bool := c.isAlphanum || c == '_'

def LetterClass.set : LetterClass → CharSet
  | .digit => digits
  | .space => spaces
  | .word => wordChars

def AsciiClass.set : AsciiClass → CharSet
  | .alnum => .ofRanges [⟨0x30, 0x39⟩, ⟨0x41, 0x5A⟩, ⟨0x61, 0x7A⟩]
  | .alpha => .ofRanges [⟨0x41, 0x5A⟩, ⟨0x61, 0x7A⟩]
  | .ascii => .ofRanges [⟨0, 0x7F⟩]
  | .blank => .ofRanges [⟨0x09, 0x09⟩, ⟨0x20, 0x20⟩]
  | .cntrl => .ofRanges [⟨0, 0x1F⟩, ⟨0x7F, 0x7F⟩]
  | .digit => .ofRanges [⟨0x30, 0x39⟩]
  | .graph => .ofRanges [⟨0x21, 0x7E⟩]
  | .lower => .ofRanges [⟨0x61, 0x7A⟩]
  | .print => .ofRanges [⟨0x20, 0x7E⟩]
  | .punct => .ofRanges [⟨0x21, 0x2F⟩, ⟨0x3A, 0x40⟩, ⟨0x5B, 0x60⟩, ⟨0x7B, 0x7E⟩]
  | .space => .ofRanges [⟨0x09, 0x0D⟩, ⟨0x20, 0x20⟩]
  | .upper => .ofRanges [⟨0x41, 0x5A⟩]
  | .word => .ofRanges [⟨0x30, 0x39⟩, ⟨0x41, 0x5A⟩, ⟨0x5F, 0x5F⟩, ⟨0x61, 0x7A⟩]
  | .xdigit => .ofRanges [⟨0x30, 0x39⟩, ⟨0x41, 0x46⟩, ⟨0x61, 0x66⟩]

/-- The ASCII meaning of the letter classes. -/
def LetterClass.asciiSet : LetterClass → CharSet
  | .digit => AsciiClass.set .digit
  | .space => AsciiClass.set .space
  | .word => AsciiClass.set .word

/-- The form in which names are compared: ASCII only, in lower case, without separators and
without a leading `is`. -/
def looseName (name : String) : String :=
  let keep (c : Char) : Option Char :=
    if c = ' ' ∨ c = '_' ∨ c = '-' ∨ 0x80 ≤ c.toNat then none else some c.toLower
  let text := name.toList
  let isForm := ((text.take 2).map Char.toLower) = ['i', 's']
  let kept := (if isForm then text.drop 2 else text).filterMap keep
  String.ofList (if isForm && kept == ['c'] then ['i', 's', 'c'] else kept)

open Category in
/-- A general category or a group of them. -/
def category? (name : String) : Option CharSet :=
  let letters := [uppercaseLetter, lowercaseLetter, titlecaseLetter, modifierLetter, otherLetter]
  let table (names : List String) (tables : List RangeTable) :=
    if name ∈ names then some (categories tables) else none
  if name = "any" then some .all
  else if name = "ascii" then some (.ofRanges [⟨0, 0x7F⟩])
  else if name = "assigned" then some (CharSet.ofTable unassigned).complement
  else
    table ["l", "letter"] letters <|>
    table ["lc", "casedletter"] [uppercaseLetter, lowercaseLetter, titlecaseLetter] <|>
    table ["lu", "uppercaseletter"] [uppercaseLetter] <|>
    table ["ll", "lowercaseletter"] [lowercaseLetter] <|>
    table ["lt", "titlecaseletter"] [titlecaseLetter] <|>
    table ["lm", "modifierletter"] [modifierLetter] <|>
    table ["lo", "otherletter"] [otherLetter] <|>
    table ["m", "mark", "combiningmark"] [nonspacingMark, spacingMark, enclosingMark] <|>
    table ["mn", "nonspacingmark"] [nonspacingMark] <|>
    table ["mc", "spacingmark"] [spacingMark] <|>
    table ["me", "enclosingmark"] [enclosingMark] <|>
    table ["n", "number"] [decimalNumber, letterNumber, otherNumber] <|>
    table ["nd", "decimalnumber", "digit"] [decimalNumber] <|>
    table ["nl", "letternumber"] [letterNumber] <|>
    table ["no", "othernumber"] [otherNumber] <|>
    table ["p", "punctuation", "punct"] [connectorPunctuation, dashPunctuation, openPunctuation,
      closePunctuation, initialPunctuation, finalPunctuation, otherPunctuation] <|>
    table ["pc", "connectorpunctuation"] [connectorPunctuation] <|>
    table ["pd", "dashpunctuation"] [dashPunctuation] <|>
    table ["ps", "openpunctuation"] [openPunctuation] <|>
    table ["pe", "closepunctuation"] [closePunctuation] <|>
    table ["pi", "initialpunctuation"] [initialPunctuation] <|>
    table ["pf", "finalpunctuation"] [finalPunctuation] <|>
    table ["po", "otherpunctuation"] [otherPunctuation] <|>
    table ["s", "symbol"] [mathSymbol, currencySymbol, modifierSymbol, otherSymbol] <|>
    table ["sm", "mathsymbol"] [mathSymbol] <|>
    table ["sc", "currencysymbol"] [currencySymbol] <|>
    table ["sk", "modifiersymbol"] [modifierSymbol] <|>
    table ["so", "othersymbol"] [otherSymbol] <|>
    table ["z", "separator"] [spaceSeparator, lineSeparator, paragraphSeparator] <|>
    table ["zs", "spaceseparator"] [spaceSeparator] <|>
    table ["zl", "lineseparator"] [lineSeparator] <|>
    table ["zp", "paragraphseparator"] [paragraphSeparator] <|>
    table ["c", "other"] [control, format, privateUse, unassigned] <|>
    table ["cc", "control", "cntrl"] [control] <|>
    table ["cf", "format"] [format] <|>
    table ["co", "privateuse"] [privateUse] <|>
    table ["cn", "unassigned"] [unassigned]

def property? (name : String) : Option CharSet :=
  (Property.all.find? fun entry => entry.1.contains name).map fun entry => .ofTable entry.2

def script? (name : String) : Option Script.Entry :=
  Script.all.find? fun entry => entry.names.contains name

/-- The set a query asks for. Three short names mean categories, whatever property they might
also abbreviate. -/
def PropertyQuery.set? : PropertyQuery → Option CharSet
  | .named name =>
    let name := looseName name
    let asProperty := if name ∈ ["cf", "sc", "lc"] then none else property? name
    asProperty <|> category? name <|> (script? name).map fun entry => .ofTable entry.own
  | .valued property value =>
    let value := looseName value
    match looseName property with
    | "generalcategory" | "gc" => category? value
    | "script" | "sc" => (script? value).map fun entry => .ofTable entry.own
    | "scriptextensions" | "scx" => (script? value).map fun entry => .ofTable entry.extended
    | _ => none

def isNameStart (c : Char) : Bool :=
  c == '_' || Property.alphabetic.contains c.toNat

/-- What a group's name may go on with: letters, numbers and four marks. -/
def isNameChar (c : Char) : Bool :=
  c == '_' || c == '.' || c == '[' || c == ']' || Property.alphabetic.contains c.toNat ||
    Category.decimalNumber.contains c.toNat || Category.letterNumber.contains c.toNat ||
    Category.otherNumber.contains c.toNat

end MatchTree.Regex
