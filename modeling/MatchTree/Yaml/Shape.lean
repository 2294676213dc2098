import MatchTree.Yaml.Scalar
import MatchTree.Yaml.Tree

/-!
YAML trees by what their place calls for.

Where a value is called for, a scalar stands for what it looks like, and the keys of mappings
have to stand for texts. Where a text is called for, any scalar will do. Where a list or a
record is called for, nothing at all will do for an empty one.
-/

set_option autoImplicit false
namespace MatchTree.Yaml.Tree

/-- A tag of the reader's own making. -/
def hasLocalTag (tag : Option String) : Bool := tag.any fun tag => tag.startsWith "!"

mutual

/-- The value a tree stands for, with fields as listed. -/
def value? : Tree → Option Value
  | .scalar plain tag text => valueOfScalar? plain tag text
  | .sequence tag items =>
    if hasLocalTag tag then none else (valuesOfItems items).map .array
  | .mapping tag entries =>
    if hasLocalTag tag then none else (fieldsOfEntries entries).map .object

def valuesOfItems : List Tree → Option (List Value)
  | [] => some []
  | item :: rest => do
    let v ← item.value?
    return v :: (← valuesOfItems rest)

def fieldsOfEntries : List (Tree × Tree) → Option (List (String × Value))
  | [] => some []
  | (key, item) :: rest => do
    let .string key ← key.value? | none
    let v ← item.value?
    return (key, v) :: (← fieldsOfEntries rest)

end

/-- Nothing at all in the place of a node. -/
def isBlank : Tree → Bool
  | .scalar plain _ text => plain && text.isEmpty
  | _ => false

def text? : Tree → Option String
  | .scalar _ _ text => some text
  | _ => none

def flag? : Tree → Option Bool
  | .scalar true _ text => boolOfText? text
  | _ => none

def items? : Tree → Option (List Tree)
  | .sequence _ items => some items
  | tree => if tree.isBlank then some [] else none

/-- The entries of a mapping whose keys are scalars. -/
def entries? : Tree → Option (List (String × Tree))
  | .mapping _ entries => entries.mapM fun (key, item) => key.text?.map fun key => (key, item)
  | tree => if tree.isBlank then some [] else none

/-- The entries of a record that have one of the given names, each name at most once. Entries
of other names are refused if the record is closed, and passed over if not. -/
def record? (closed : Bool) (names : List String) (tree : Tree) :
    Option (List (String × Tree)) := do
  let entries ← tree.entries?
  let known := entries.filter fun entry => names.contains entry.1
  let keys := known.map Prod.fst
  if keys.eraseDups.length = keys.length ∧ (closed → known.length = entries.length) then
    return known
  else none

/-- An optional place: empty or null is absent. -/
def optional? : Tree → Option (Option Tree)
  | .scalar true none text =>
    some (if text.isEmpty || isNullText text then none else some (.scalar true none text))
  | .scalar true (some "tag:yaml.org,2002:null") text =>
    if isNullText text then some none else none
  | tree => some (some tree)

end MatchTree.Yaml.Tree
