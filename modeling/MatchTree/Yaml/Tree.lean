import MatchTree.Yaml.Token

/-!
The trees that YAML tokens spell, one for each document of a text.

Collections lie at most 128 deep. An alias stands for a copy of the node that carries its
anchor; the anchor has to come first in the same document, and its node has to be complete.
A text may call for a hundred copies for each of its tokens, those within copies counted. A
node may be left out where its place is clear; it is then an empty plain scalar.
-/

set_option autoImplicit false
namespace MatchTree.Yaml

inductive Tree
  | scalar (plain : Bool) (tag : Option String) (text : String)
  | sequence (tag : Option String) (items : List Tree)
  | mapping (tag : Option String) (entries : List (Tree × Tree))
  deriving Repr, Inhabited

namespace Tree

def empty : Tree := .scalar true none ""

mutual

/-- How many collections lie within each other at most. -/
def depth : Tree → Nat
  | .scalar _ _ _ => 0
  | .sequence _ items => depthOfItems items + 1
  | .mapping _ entries => depthOfEntries entries + 1

def depthOfItems : List Tree → Nat
  | [] => 0
  | item :: rest => max item.depth (depthOfItems rest)

def depthOfEntries : List (Tree × Tree) → Nat
  | [] => 0
  | (key, value) :: rest => max (max key.depth value.depth) (depthOfEntries rest)

end
end Tree

/-- The tokens still to come, and the anchors so far, each with its tree and how many copies
that tree holds; one without a tree is still open. So many copies may still be made. -/
structure Cursor where
  rest : List Token
  anchors : List (String × Option (Tree × Nat))
  budget : Nat

/-- A step of building: it takes tokens and gives a result, or the tokens are at fault. -/
abbrev Build := StateT Cursor Option

namespace Build

def peek : Build (Option Token) := do return (← get).rest.head?

def skip : Build Unit := modify fun cursor => { cursor with rest := cursor.rest.drop 1 }

/-- Takes a token that has to be next. -/
def expect (token : Token) : Build Unit := do
  if (← peek) = some token then skip else failure

/-- Takes a token if it is next. -/
def accept (token : Token) : Build Bool := do
  if (← peek) = some token then
    skip
    return true
  else return false

/-- Whether a place is left out: one of these tokens is next. -/
def absent (tokens : List Token) : Build Bool := do
  return (← peek).any tokens.contains

def setAnchor (name : String) (entry : Option (Tree × Nat)) : Build Unit :=
  modify fun cursor => { cursor with anchors := (name, entry) :: cursor.anchors }

/-- A copy of an anchored tree; the copies in it count too. -/
def copy (name : String) : Build Tree := do
  match (← get).anchors.lookup name with
  | some (some (tree, copies)) =>
    if copies < (← get).budget then
      modify fun cursor => { cursor with budget := cursor.budget - (copies + 1) }
      return tree
    else failure
  | _ => failure

/-- An anchor and a tag, each at most once, in either order. -/
def properties : Build (Option String × Option String) := do
  match ← peek with
  | some (.anchor name) =>
    skip
    match ← peek with
    | some (.tag tag) =>
      skip
      return (some name, some tag)
    | _ => return (some name, none)
  | some (.tag tag) =>
    skip
    match ← peek with
    | some (.anchor name) =>
      skip
      return (some name, some tag)
    | _ => return (none, some tag)
  | _ => return (none, none)

/-- Where a node stands, which says what it may be. -/
inductive Place
  | block
  | entry
  | flow
  deriving DecidableEq

mutual

/-- One node. The fuel bounds the calls within each other; a token is taken at least at every
fourth, so four times the number of tokens are enough. -/
def node : Nat → Place → Build Tree
  | 0, _ => failure
  | fuel + 1, place => do
    match ← peek with
    | some (.alias name) =>
      skip
      copy name
    | _ =>
      let (anchor, tag) ← properties
      let before := (← get).budget
      if let some name := anchor then setAnchor name none
      let tree ← content fuel place (anchor.isSome || tag.isSome) tag
      if let some name := anchor then setAnchor name (some (tree, before - (← get).budget))
      return tree

/-- What follows the properties of a node; nothing may follow if there were any. -/
def content : Nat → Place → Bool → Option String → Build Tree
  | 0, _, _, _ => failure
  | fuel + 1, place, marked, tag => do
    match ← peek with
    | some (.scalar plain text) =>
      skip
      return .scalar plain tag text
    | some .flowSequenceStart =>
      skip
      return .sequence tag (← flowItems fuel true)
    | some .flowMappingStart =>
      skip
      return .mapping tag (← flowEntries fuel true)
    | some .sequenceStart =>
      if place = .flow then empty marked tag
      else
        skip
        return .sequence tag (← blockItems fuel)
    | some .mappingStart =>
      if place = .flow then empty marked tag
      else
        skip
        return .mapping tag (← blockEntries fuel)
    | some .entry =>
      if place = .entry then return .sequence tag (← flushItems fuel) else empty marked tag
    | _ => empty marked tag
where
  empty (marked : Bool) (tag : Option String) : Build Tree :=
    if marked then return .scalar true tag "" else failure

/-- A node, unless one of these tokens shows that it is left out. -/
def nodeUnless : Nat → Place → List Token → Build Tree
  | 0, _, _ => failure
  | fuel + 1, place, tokens => do
    if ← absent tokens then return .empty else node fuel place

/-- The items of a block up to its end. -/
def blockItems : Nat → Build (List Tree)
  | 0 => failure
  | fuel + 1 => do
    if ← accept .blockEnd then return []
    else
      expect .entry
      let item ← nodeUnless fuel .block [.entry, .blockEnd]
      return item :: (← blockItems fuel)

/-- The items of a sequence that is no deeper than the key it belongs to. -/
def flushItems : Nat → Build (List Tree)
  | 0 => failure
  | fuel + 1 => do
    if ← accept .entry then
      let item ← nodeUnless fuel .block [.entry, .key, .value, .blockEnd]
      return item :: (← flushItems fuel)
    else return []

def blockEntries : Nat → Build (List (Tree × Tree))
  | 0 => failure
  | fuel + 1 => do
    if ← accept .blockEnd then return []
    else
      expect .key
      let key ← nodeUnless fuel .entry [.key, .value, .blockEnd]
      let value ←
        if ← accept .value then nodeUnless fuel .entry [.key, .value, .blockEnd]
        else pure .empty
      return (key, value) :: (← blockEntries fuel)

def flowItems : Nat → (first : Bool) → Build (List Tree)
  | 0, _ => failure
  | fuel + 1, first => do
    if ← accept .flowSequenceEnd then return []
    else
      if !first then expect .comma
      if ← accept .flowSequenceEnd then return []
      else if ← accept .key then
        let key ← flowPairKey fuel
        let value ←
          if ← accept .value then nodeUnless fuel .flow [.comma, .flowSequenceEnd]
          else pure .empty
        return .mapping none [(key, value)] :: (← flowItems fuel false)
      else
        let item ← node fuel .flow
        return item :: (← flowItems fuel false)

/-- The key of a pair that is an item; where it is left out, the token in its place goes. -/
def flowPairKey : Nat → Build Tree
  | 0 => failure
  | fuel + 1 => do
    if ← absent [.value, .comma, .flowSequenceEnd] then
      skip
      return .empty
    else node fuel .flow

def flowEntries : Nat → (first : Bool) → Build (List (Tree × Tree))
  | 0, _ => failure
  | fuel + 1, first => do
    if ← accept .flowMappingEnd then return []
    else
      if !first then expect .comma
      if ← accept .flowMappingEnd then return []
      else if ← accept .key then
        let key ← nodeUnless fuel .flow [.value, .comma, .flowMappingEnd]
        let value ←
          if ← accept .value then nodeUnless fuel .flow [.comma, .flowMappingEnd]
          else pure .empty
        return (key, value) :: (← flowEntries fuel false)
      else
        let key ← node fuel .flow
        return (key, .empty) :: (← flowEntries fuel false)

end

/-- One document's node, after its start. -/
def document (fuel : Nat) : Build Tree := do
  modify fun cursor => { cursor with anchors := [] }
  match ← peek with
  | none | some .directive | some .documentStart | some .documentEnd => return .empty
  | _ => node fuel .block

/-- The documents after the first: each is announced. -/
def documents (fuel : Nat) : Nat → Build (List Tree)
  | 0 => failure
  | count + 1 => do
    modify fun cursor => { cursor with rest := cursor.rest.dropWhile (· = .documentEnd) }
    if (← peek).isNone then return []
    else
      modify fun cursor => { cursor with rest := cursor.rest.dropWhile (· = .directive) }
      expect .documentStart
      let tree ← document fuel
      return tree :: (← documents fuel count)

/-- All documents; the first need not be announced. A text without any token has one. -/
def stream (fuel : Nat) : Build (List Tree) := do
  match ← peek with
  | none => return [.empty]
  | some .directive | some .documentStart => documents fuel fuel
  | some _ =>
    let tree ← node fuel .block
    return tree :: (← documents fuel fuel)

end Build

def maxDepth : Nat := 128

/-- The documents of a text. -/
def documents? (text : List Char) : Option (List Tree) := do
  let tokens ← tokens? text
  let (trees, _) ← (Build.stream (4 * tokens.size + 4)).run ⟨tokens.toList, [], 100 * tokens.size⟩
  if trees.all fun tree => decide (tree.depth ≤ maxDepth) then return trees else none

/-- The tree of a text that holds one document. -/
def document? (text : List Char) : Option Tree := do
  match ← documents? text with
  | [tree] => return tree
  | _ => none

end MatchTree.Yaml
