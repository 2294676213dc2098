import MatchTree.Regex.Reader

/-!
Regular expressions with the flags worked in: sets of characters, conditions on the two
characters around a place, and the ways to combine them.

A directive such as `(?i)` holds from where it stands to the end of its group, across the
branches that follow. Without the Unicode flag, letters and classes mean their ASCII part, and
whatever could match half a character is refused.
-/

set_option autoImplicit false
namespace MatchTree.Regex

structure Flags where
  ignoreCase : Bool
  multiLine : Bool
  dotAll : Bool
  unicode : Bool
  crlf : Bool
  deriving DecidableEq, Repr

def Flags.initial : Flags := ⟨false, false, false, true, false⟩

def Flags.apply (flags : Flags) (change : FlagChange) : Flags where
  ignoreCase := (change.state? .ignoreCase).getD flags.ignoreCase
  multiLine := (change.state? .multiLine).getD flags.multiLine
  dotAll := (change.state? .dotAll).getD flags.dotAll
  unicode := (change.state? .unicode).getD flags.unicode
  crlf := (change.state? .crlf).getD flags.crlf

/-- A condition on a place between two characters. -/
inductive Look
  | textStart
  | textEnd
  | lineStart (crlf : Bool)
  | lineEnd (crlf : Bool)
  | word (unicode : Bool) (edge : WordEdge)
  deriving DecidableEq, Repr

inductive Expression
  | empty
  | set (chars : CharSet)
  | look (l : Look)
  | concat (parts : List Expression)
  | alternation (branches : List Expression)
  | repetition (least : Nat) (most : Option Nat) (body : Expression)
  deriving Repr, Inhabited

/-- Without the Unicode flag a set has to be ASCII. -/
def checkText (flags : Flags) (set : CharSet) : Except Fault CharSet :=
  if flags.unicode || set.isAscii then .ok set else .error .notText

def foldSet (flags : Flags) (set : CharSet) : CharSet :=
  if flags.ignoreCase then (if flags.unicode then set.fold else set.foldAscii) else set

/-- Case is put aside before a class is negated. -/
def finishSet (flags : Flags) (negated : Bool) (set : CharSet) : Except Fault CharSet :=
  let folded := foldSet flags set
  checkText flags (if negated then folded.complement else folded)

def letterSet (flags : Flags) (kind : LetterClass) (negated : Bool) : Except Fault CharSet :=
  let set := if flags.unicode then kind.set else kind.asciiSet
  checkText flags (if negated then set.complement else set)

def propertySet (flags : Flags) (query : PropertyQuery) (negated : Bool) :
    Except Fault CharSet :=
  if !flags.unicode then .error .notUnicode
  else match query.set? with
    | none => .error .property
    | some set => finishSet flags negated set

/-- The character a literal stands for inside a class. -/
def classChar (flags : Flags) (l : Literal) : Except Fault Char :=
  if flags.unicode || l.char.toNat < 0x80 then .ok l.char
  else if l.byte then .error .notText
  else .error .notUnicode

mutual

def ClassSet.set (flags : Flags) : ClassSet → Except Fault CharSet
  | .empty => .ok .empty
  | .literal l => do return .ofChar (← classChar flags l)
  | .range first last => do return .range (← classChar flags first) (← classChar flags last)
  | .ascii kind negated => finishSet flags negated kind.set
  | .letter kind negated => letterSet flags kind negated
  | .property query negated => propertySet flags query negated
  | .bracketed negated body => do finishSet flags negated (← body.set flags)
  | .union items => do return .unions (← setsOf flags items)
  | .combine op left right => do
    let left := foldSet flags (← left.set flags)
    let right := foldSet flags (← right.set flags)
    match op with
    | .both => return left.inter right
    | .minus => return left.minus right
    | .either => return left.either right

def setsOf (flags : Flags) : List ClassSet → Except Fault (List CharSet)
  | [] => .ok []
  | item :: rest => do return (← item.set flags) :: (← setsOf flags rest)

end

def literalSet (flags : Flags) (l : Literal) : Except Fault CharSet :=
  if flags.unicode then .ok (foldSet flags (.ofChar l.char))
  else if l.char.toNat < 0x80 then .ok (foldSet flags (.ofChar l.char))
  else if l.byte then .error .notText
  else .ok (.ofChar l.char)

/-- The dot: every character, or all but the ends of lines. -/
def dotSet (flags : Flags) : Except Fault CharSet :=
  if !flags.unicode then .error .notText
  else if flags.dotAll then .ok .all
  else if flags.crlf then .ok (CharSet.ofRanges [⟨10, 10⟩, ⟨13, 13⟩]).complement
  else .ok (CharSet.ofRanges [⟨10, 10⟩]).complement

def Assertion.look (flags : Flags) : Assertion → Look
  | .lineStart => if flags.multiLine then .lineStart flags.crlf else .textStart
  | .lineEnd => if flags.multiLine then .lineEnd flags.crlf else .textEnd
  | .textStart => .textStart
  | .textEnd => .textEnd
  | .word edge => .word flags.unicode edge

mutual

/-- The expression of a pattern, and the flags in force after it. -/
def Pattern.expression (flags : Flags) : Pattern → Except Fault (Expression × Flags)
  | .empty => .ok (.empty, flags)
  | .flags change => .ok (.empty, flags.apply change)
  | .literal l => do return (.set (← literalSet flags l), flags)
  | .dot => do return (.set (← dotSet flags), flags)
  | .assertion a => .ok (.look (a.look flags), flags)
  | .letter kind negated => do return (.set (← letterSet flags kind negated), flags)
  | .property query negated => do return (.set (← propertySet flags query negated), flags)
  | .bracketed negated body => do
    return (.set (← finishSet flags negated (← body.set flags)), flags)
  | .repetition least most body => do
    let (body, after) ← body.expression flags
    return (.repetition least most body, after)
  | .group change body => do
    let inner := match change with
      | some change => flags.apply change
      | none => flags
    let (body, _) ← body.expression inner
    return (body, flags)
  | .alternation branches => do
    let (branches, after) ← expressionsOf flags branches
    return (.alternation branches, after)
  | .concat parts => do
    let (parts, after) ← expressionsOf flags parts
    return (.concat parts, after)

def expressionsOf (flags : Flags) : List Pattern → Except Fault (List Expression × Flags)
  | [] => .ok ([], flags)
  | pattern :: rest => do
    let (first, flags) ← pattern.expression flags
    let (rest, flags) ← expressionsOf flags rest
    return (first :: rest, flags)

end

/-- The expression a text spells. -/
def Expression.read (text : List Char) : Except Fault Expression := do
  let pattern ← Pattern.read text
  let (expression, _) ← pattern.expression .initial
  return expression

end MatchTree.Regex
