import MatchTree.Text.Folding

/-!
Sets of characters, as ascending lists of ranges that do not touch: union, complement and the
operations made from them, and closure under change of case.
-/

set_option autoImplicit false
namespace MatchTree.Regex

structure CharSet where
  ranges : List CharRange
  deriving DecidableEq, Repr, Inhabited

namespace CharSet

/-- Goes on with a range through others that start later, taking in those that it touches. -/
def mergeFrom (current : CharRange) : List CharRange → List CharRange
  | [] => [current]
  | next :: rest =>
    if next.first ≤ current.last + 1 then
      mergeFrom ⟨current.first, max current.last next.last⟩ rest
    else current :: mergeFrom next rest

/-- Merges ranges listed by ascending start. -/
def merge : List CharRange → List CharRange
  | [] => []
  | r :: rest => mergeFrom r rest

def ofRanges (ranges : List CharRange) : CharSet :=
  ⟨merge (ranges.mergeSort fun a b => a.first ≤ b.first)⟩

def empty : CharSet := ⟨[]⟩

def ofTable (table : RangeTable) : CharSet := ⟨table.toList⟩

def ofChar (c : Char) : CharSet := ⟨[⟨c.toNat, c.toNat⟩]⟩

def range (first last : Char) : CharSet := ⟨[⟨first.toNat, last.toNat⟩]⟩

def maxCode : Nat := 0x10FFFF

def all : CharSet := ⟨[⟨0, maxCode⟩]⟩

def contains (set : CharSet) (c : Char) : Bool :=
  set.ranges.any fun r => r.contains c.toNat

def union (a b : CharSet) : CharSet := ofRanges (a.ranges ++ b.ranges)

def unions (sets : List CharSet) : CharSet := ofRanges (sets.flatMap (·.ranges))

/-- The gaps between ascending ranges, from a code on. -/
def gaps (start : Nat) : List CharRange → List CharRange
  | [] => if start ≤ maxCode then [⟨start, maxCode⟩] else []
  | r :: rest =>
    if start < r.first then ⟨start, r.first - 1⟩ :: gaps (r.last + 1) rest
    else gaps (r.last + 1) rest

def complement (set : CharSet) : CharSet := ⟨gaps 0 set.ranges⟩

def inter (a b : CharSet) : CharSet := (union a.complement b.complement).complement

def minus (a b : CharSet) : CharSet := inter a b.complement

/-- In one of the two sets, not in both. -/
def either (a b : CharSet) : CharSet := minus (union a b) (inter a b)

/-- Every character that differs by case alone from one of the set. -/
def fold (set : CharSet) : CharSet :=
  let table : RangeTable := set.ranges.toArray
  let members := foldClasses.flatMap fun members =>
    if members.any table.contains then members.map fun code => (⟨code, code⟩ : CharRange)
    else []
  ofRanges (set.ranges ++ members)

/-- The other case of the ASCII letters of a set. -/
def foldAscii (set : CharSet) : CharSet :=
  let shifted (first last : Nat) (shift : Nat → Nat) : List CharRange :=
    (inter set ⟨[⟨first, last⟩]⟩).ranges.map fun r => ⟨shift r.first, shift r.last⟩
  ofRanges (set.ranges ++ shifted 0x41 0x5A (· + 0x20) ++ shifted 0x61 0x7A (· - 0x20))

def isAscii (set : CharSet) : Bool := set.ranges.all fun r => r.last < 0x80

end CharSet
end MatchTree.Regex
