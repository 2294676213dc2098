import MatchTree.Net.HostName.Direction
import MatchTree.Net.HostName.Mapping
import MatchTree.Net.HostName.Punycode
import MatchTree.Text.Category
import MatchTree.Text.Composition

/-!
Preparing a host name: its characters are replaced or left out as the tables say and composed,
and every label is checked. A label must not begin with a mark, the two joining controls need
fitting neighbours, and names with right-to-left letters keep to one direction in each label.
-/

set_option autoImplicit false
namespace MatchTree.HostName

/-- Characters that no host name holds, though the tables allow them. -/
def isForbidden (code : Nat) : Bool :=
  code ≤ 0x20 || code == 0x7F || ("%#/:<>?@[\\]^|".toList.any fun c => c.toNat == code)

/-- Replaces the characters of a name; none of them may be disallowed. -/
def replaceAll? : List Nat → Option (List Nat)
  | [] => some []
  | code :: rest => do
    if disallowed.contains code then none
    else
      let rest ← replaceAll? rest
      if ignored.contains code then some rest
      else some ((replacement? code).getD [code] ++ rest)

def isMark (code : Nat) : Bool :=
  Category.nonspacingMark.contains code || Category.spacingMark.contains code ||
    Category.enclosingMark.contains code

/-- Between letters that join, a non-joiner may keep them apart. -/
def joinsAcross (before after : List Nat) : Bool :=
  let nearest (codes : List Nat) := codes.find? fun code => !transparent.contains code
  (nearest before).any (fun code => joinsLeft.contains code || joinsBoth.contains code) &&
    (nearest after).any (fun code => joinsRight.contains code || joinsBoth.contains code)

/-- Checks the joining controls; `before` holds, in reverse, what stands before. -/
def controlsFit : (before : List Nat) → List Nat → Bool
  | _, [] => true
  | before, code :: rest =>
    let afterDropper := before.head?.any vowelDroppers.contains
    let fits :=
      if code = 0x200D then afterDropper
      else if code = 0x200C then afterDropper || joinsAcross before rest
      else true
    fits && controlsFit (code :: before) rest

def isRightToLeft (code : Nat) : Bool :=
  rightToLeft.contains code || arabicLetter.contains code

/-- Whether a name with this label has to keep to the rules of direction. -/
def needsDirection (label : List Nat) : Bool :=
  label.any fun code => isRightToLeft code || arabicNumber.contains code

def isLeftToRight (code : Nat) : Bool :=
  !([rightToLeft, arabicLetter, arabicNumber, europeanNumber, europeanSeparator, commonSeparator,
    europeanTerminator, otherNeutral, boundaryNeutral, nonspacing, separators].any
      fun table => table.contains code)

/-- Characters that both directions admit. -/
def isShared (code : Nat) : Bool :=
  [europeanNumber, europeanSeparator, commonSeparator, europeanTerminator, otherNeutral,
    boundaryNeutral, nonspacing].any fun table => table.contains code

/-- The last character that is not a mark without width. -/
def lastSpacing? (label : List Nat) : Option Nat :=
  label.reverse.find? fun code => !nonspacing.contains code

/-- A label is written in the direction of its first character, and ends in a letter of this
direction or in a number; numbers of one kind only stand in a right-to-left label. -/
def keepsDirection : List Nat → Bool
  | [] => true
  | first :: rest =>
    let label := first :: rest
    if isRightToLeft first then
      label.all (fun code =>
        isRightToLeft code || arabicNumber.contains code || isShared code) &&
      (lastSpacing? label).any (fun code =>
        isRightToLeft code || arabicNumber.contains code || europeanNumber.contains code) &&
      !(label.any arabicNumber.contains && label.any europeanNumber.contains)
    else if isLeftToRight first then
      label.all (fun code => isLeftToRight code || isShared code) &&
      (lastSpacing? label).any fun code => isLeftToRight code || europeanNumber.contains code
    else false

/-- What holds of every label once it is decoded. -/
def isSound (label : List Nat) : Bool :=
  !label.head?.any isMark && controlsFit [] label

def punycodeMark : List Nat := "xn--".toList.map Char.toNat

/-- The characters a label stands for. An encoded label must be ASCII itself, and decode to a
label that is not, is composed, and would not be changed by replacing characters. -/
def decodeLabel? (label : List Nat) : Option (List Nat) :=
  if punycodeMark.isPrefixOf label then do
    if label.any (0x80 ≤ ·) then none
    else
      let codes ← decodePunycode ((label.drop 4).map Char.ofNat)
      let unchanged := codes.all fun code =>
        !disallowed.contains code && !ignored.contains code && (replacement? code).isNone
      if codes.any (0x80 ≤ ·) && unchanged && Composition.compose codes == codes then some codes
      else none
  else some label

def splitLabels (codes : List Nat) : List (List Nat) :=
  match codes with
  | [] => [[]]
  | code :: rest =>
    match splitLabels rest with
    | [] => [[code]]
    | label :: labels =>
      if code = '.'.toNat then [] :: label :: labels else (code :: label) :: labels

/-- The labels of a name after preparation, encoded ones still encoded; `none` if the name is
no international domain name. -/
def labels? (codes : List Nat) : Option (List (List Nat)) := do
  let mapped ← replaceAll? codes
  let labels := splitLabels (Composition.compose mapped)
  let decoded ← labels.mapM decodeLabel?
  if labels.any (·.any isForbidden) then none
  else if !decoded.all isSound then none
  else if decoded.any needsDirection && !decoded.all keepsDirection then none
  else some labels

end MatchTree.HostName
