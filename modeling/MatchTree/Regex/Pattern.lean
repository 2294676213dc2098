/-!
Regular expressions as written: the tree that a pattern's text spells, before the flags in
force at each place are applied to it.
-/

set_option autoImplicit false
namespace MatchTree.Regex

inductive Flag
  | ignoreCase
  | multiLine
  | dotAll
  | swapGreed
  | unicode
  | crlf
  | verbose
  deriving DecidableEq, Repr

/-- The flags that a group or a directive turns on and off. -/
structure FlagChange where
  on : List Flag
  off : List Flag
  deriving DecidableEq, Repr

/-- What the change says about a flag, if anything. -/
def FlagChange.state? (change : FlagChange) (flag : Flag) : Option Bool :=
  if flag ∈ change.on then some true
  else if flag ∈ change.off then some false
  else none

inductive WordEdge
  | boundary
  | notBoundary
  | start
  | finish
  | startHalf
  | finishHalf
  deriving DecidableEq, Repr

inductive Assertion
  | lineStart
  | lineEnd
  | textStart
  | textEnd
  | word (edge : WordEdge)
  deriving DecidableEq, Repr

/-- The three classes that have a letter of their own. -/
inductive LetterClass
  | digit
  | space
  | word
  deriving DecidableEq, Repr

/-- Classes such as `[:alpha:]`, of ASCII characters only. -/
inductive AsciiClass
  | alnum
  | alpha
  | ascii
  | blank
  | cntrl
  | digit
  | graph
  | lower
  | print
  | punct
  | space
  | upper
  | word
  | xdigit
  deriving DecidableEq, Repr

/-- How a character property is asked for. -/
inductive PropertyQuery
  | named (name : String)
  | valued (property : String) (value : String)
  deriving DecidableEq, Repr

/-- A character standing for itself; `byte` if it was written as a two-digit code. -/
structure Literal where
  char : Char
  byte : Bool
  deriving DecidableEq, Repr

inductive SetOp
  | both
  | minus
  | either
  deriving DecidableEq, Repr

/-- The inside of a bracketed class. -/
inductive ClassSet
  | empty
  | literal (l : Literal)
  | range (first last : Literal)
  | ascii (kind : AsciiClass) (negated : Bool)
  | letter (kind : LetterClass) (negated : Bool)
  | property (query : PropertyQuery) (negated : Bool)
  | bracketed (negated : Bool) (body : ClassSet)
  | union (items : List ClassSet)
  | combine (op : SetOp) (left right : ClassSet)
  deriving Repr, Inhabited

inductive Pattern
  | empty
  | flags (change : FlagChange)
  | literal (l : Literal)
  | dot
  | assertion (a : Assertion)
  | letter (kind : LetterClass) (negated : Bool)
  | property (query : PropertyQuery) (negated : Bool)
  | bracketed (negated : Bool) (body : ClassSet)
  | repetition (least : Nat) (most : Option Nat) (body : Pattern)
  | group (change : Option FlagChange) (body : Pattern)
  | alternation (branches : List Pattern)
  | concat (parts : List Pattern)
  deriving Repr, Inhabited

mutual

/-- How deep bracketed classes, unions and set operations nest. -/
def ClassSet.depth : ClassSet → Nat
  | .bracketed _ body => body.depth + 1
  | .union items => depthOfSets items + 1
  | .combine _ left right => max left.depth right.depth + 1
  | _ => 0

def depthOfSets : List ClassSet → Nat
  | [] => 0
  | set :: rest => max set.depth (depthOfSets rest)

end

mutual

/-- How deep the pattern nests; single characters, assertions and classes by letter have
no depth. -/
def Pattern.depth : Pattern → Nat
  | .bracketed _ body => body.depth + 1
  | .repetition _ _ body => body.depth + 1
  | .group _ body => body.depth + 1
  | .alternation branches => depthOfPatterns branches + 1
  | .concat parts => depthOfPatterns parts + 1
  | _ => 0

def depthOfPatterns : List Pattern → Nat
  | [] => 0
  | pattern :: rest => max pattern.depth (depthOfPatterns rest)

end

end MatchTree.Regex
