import MatchTree.Json.Token

/-!
Reading a JSON text: a machine that takes one token at a time and holds the containers it is
inside of as a stack of frames. At most 127 containers may be open at once.

Fields of the outermost object may be skipped by their keys. What such a field holds has to be
well formed, but it is not kept, so it need not spell anything and may be of any depth.
-/

set_option autoImplicit false
namespace MatchTree.Json

/-- A container part way through; what it holds so far stands in reverse. -/
inductive Frame
  | list (items : List Value)
  | dict (fields : List (String × Value)) (key : String)
  deriving Repr

/-- What the next token has to be. -/
inductive Reader
  | value (stack : List Frame)
  | firstItem (stack : List Frame)
  | firstKey (stack : List Frame)
  | nextKey (fields : List (String × Value)) (stack : List Frame)
  | afterKey (fields : List (String × Value)) (key : String) (stack : List Frame)
  | afterItem (items : List Value) (stack : List Frame)
  | afterField (fields : List (String × Value)) (stack : List Frame)
  | done (v : Value)
  deriving Repr

def maxDepth : Nat := 127

/-- Whether what goes into these containers is skipped with a field of the outermost. -/
def isSkipped (skips : String → Bool) (stack : List Frame) : Bool :=
  match stack.getLast? with
  | some (.dict _ key) => skips key
  | _ => false

/-- What a literal spells; where it is skipped, anything will do. -/
def literal? {α : Type} [Inhabited α] (skipped : Bool) (spelled : Option α) : Option α :=
  if skipped then some (spelled.getD default) else spelled

namespace Reader

/-- A finished value goes to the innermost open container. -/
def complete (v : Value) : List Frame → Reader
  | [] => .done v
  | .list items :: stack => .afterItem (v :: items) stack
  | .dict fields key :: stack => .afterField ((key, v) :: fields) stack

/-- A token that begins a value. -/
def begin? (skips : String → Bool) (token : Token) (stack : List Frame) : Option Reader :=
  let skipped := isSkipped skips stack
  match token with
  | .scalar spelled => (literal? skipped spelled).map fun v => complete v stack
  | .string spelled => (literal? skipped spelled).map fun s => complete (.string s) stack
  | .openList => if skipped || stack.length < maxDepth then some (.firstItem stack) else none
  | .openDict => if skipped || stack.length < maxDepth then some (.firstKey stack) else none
  | _ => none

def step (skips : String → Bool) : Reader → Token → Option Reader
  | .value stack, token => begin? skips token stack
  | .firstItem stack, token =>
    match token with
    | .closeList => some (complete (.array []) stack)
    | token => begin? skips token (.list [] :: stack)
  | .firstKey stack, token =>
    match token with
    | .closeDict => some (complete (.object []) stack)
    | .string spelled =>
      (literal? (isSkipped skips stack) spelled).map fun key => .afterKey [] key stack
    | _ => none
  | .nextKey fields stack, .string spelled =>
    (literal? (isSkipped skips stack) spelled).map fun key => .afterKey fields key stack
  | .afterKey fields key stack, .colon => some (.value (.dict fields key :: stack))
  | .afterItem items stack, .comma => some (.value (.list items :: stack))
  | .afterItem items stack, .closeList => some (complete (.array items.reverse) stack)
  | .afterField fields stack, .comma => some (.nextKey fields stack)
  | .afterField fields stack, .closeDict => some (complete (.object fields.reverse) stack)
  | _, _ => none

def run (skips : String → Bool) (reader : Reader) (tokens : List Token) : Option Reader :=
  tokens.foldlM (step skips) reader

def result? : Reader → Option Value
  | .done v => some v
  | _ => none

end Reader

/-- The value a whole text spells, with fields as listed. What stands in the place of a skipped
field's value is of no meaning. -/
def readSkipping? (skips : String → Bool) (text : List Char) : Option Value := do
  let tokens ← tokens? text
  let reader ← Reader.run skips (.value []) tokens
  reader.result?

/-- The value a whole text spells, with fields as listed. -/
def read? (text : List Char) : Option Value :=
  readSkipping? (fun _ => false) text

end MatchTree.Json
