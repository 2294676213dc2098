import MatchTree.Regex.Size

/-!
Searching a text for a match.

An expression is laid out as a program whose instructions take one character, test the place
between two characters, or branch. The search runs through the text once, with all the places
in the program that it could be at; every position of the text may begin a match.
-/

set_option autoImplicit false
namespace MatchTree.Regex

inductive Instruction
  | take (chars : RangeTable) (next : Nat)
  | branch (first second : Nat)
  | test (look : Look) (next : Nat)
  | finish
  | fail
  deriving Repr, Inhabited

abbrev Program := Array Instruction

mutual

/-- Lays out an expression that continues at `next`; gives the place where it begins. -/
def Expression.layOut : Expression → (next : Nat) → Program → Nat × Program
  | .empty, next, program => (next, program)
  | .set chars, next, program =>
    (program.size, program.push (.take chars.ranges.toArray next))
  | .look l, next, program => (program.size, program.push (.test l next))
  | .concat parts, next, program => layOutParts parts next program
  | .alternation branches, next, program => layOutBranches branches next program
  | .repetition least most body, next, program =>
    let again (at_ : Nat × Program) : Nat × Program := body.layOut at_.1 at_.2
    let optionally (at_ : Nat × Program) : Nat × Program :=
      let (inner, program) := again at_
      (program.size, program.push (.branch inner next))
    let tail : Nat × Program := match most with
      | some most => Nat.repeat optionally (most - least) (next, program)
      | none =>
        let place := program.size
        let (inner, program) := again (place, program.push .fail)
        (place, program.setIfInBounds place (.branch inner next))
    Nat.repeat again least tail

def layOutParts : List Expression → Nat → Program → Nat × Program
  | [], next, program => (next, program)
  | part :: rest, next, program =>
    let (next, program) := layOutParts rest next program
    part.layOut next program

def layOutBranches : List Expression → Nat → Program → Nat × Program
  | [], _, program => (program.size, program.push .fail)
  | branch :: rest, next, program =>
    let (others, program) := layOutBranches rest next program
    let (first, program) := branch.layOut next program
    (program.size, program.push (.branch first others))

end

def isWordAt (unicode : Bool) (c : Option Char) : Bool :=
  c.any (if unicode then isWordChar else isAsciiWordChar)

/-- Whether a condition holds between two characters; none stands beyond the ends. -/
def Look.holds (before after : Option Char) : Look → Bool
  | .textStart => before.isNone
  | .textEnd => after.isNone
  | .lineStart false => before.all (· == '\n')
  | .lineEnd false => after.all (· == '\n')
  | .lineStart true =>
    before.all (· == '\n') || (before == some '\r' && after != some '\n')
  | .lineEnd true =>
    after.all (· == '\r') || (after == some '\n' && before != some '\r')
  | .word unicode edge =>
    let left := isWordAt unicode before
    let right := isWordAt unicode after
    match edge with
    | .boundary => left != right
    | .notBoundary => left == right
    | .start => !left && right
    | .finish => left && !right
    | .startHalf => !left
    | .finishHalf => !right

/-- What is reached without taking a character. -/
structure Reached where
  seen : Array Bool
  takes : List (RangeTable × Nat)
  finished : Bool

/-- Follows branches and tests from the pending places. Each place is expanded once and then
adds at most two, which bounds the fuel. -/
def reach (program : Program) (before after : Option Char) :
    Nat → List Nat → Reached → Reached
  | 0, _, found => found
  | _, [], found => found
  | fuel + 1, place :: pending, found =>
    if found.seen.getD place true then reach program before after fuel pending found
    else
      let found := { found with seen := found.seen.setIfInBounds place true }
      match program.getD place .fail with
      | .take chars next =>
        reach program before after fuel pending
          { found with takes := (chars, next) :: found.takes }
      | .branch first second => reach program before after fuel (first :: second :: pending) found
      | .test look next =>
        if look.holds before after then reach program before after fuel (next :: pending) found
        else reach program before after fuel pending found
      | .finish => reach program before after fuel pending { found with finished := true }
      | .fail => reach program before after fuel pending found

/-- Searches on from a position of the text, at which the given places are live. -/
def search (program : Program) (start : Nat) : Option Char → List Nat → List Char → Bool
  | before, live, text =>
    let fuel := live.length + 2 * program.size + 2
    let found := reach program before text.head? fuel (start :: live)
      ⟨Array.replicate program.size false, [], false⟩
    if found.finished then true
    else match text with
      | [] => false
      | c :: rest =>
        let live := found.takes.filterMap fun (chars, next) =>
          if chars.contains c.toNat then some next else none
        search program start (some c) live rest

end MatchTree.Regex

namespace MatchTree

/-- A compiled regular expression, with the text that it was written as. -/
structure Regex where
  source : String
  program : Regex.Program
  start : Nat
  deriving Repr, Inhabited

namespace Regex

def compile (source : String) : Except Fault Regex := do
  let expression ← Expression.read source.toList
  expression.checkSize
  let (start, program) := expression.layOut 0 #[.finish]
  return ⟨source, program, start⟩

/-- Whether some part of the text matches. -/
def isMatch (regex : Regex) (text : String) : Bool :=
  search regex.program regex.start none [] text.toList

end Regex
end MatchTree
