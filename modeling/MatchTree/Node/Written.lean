import MatchTree.Json.Reader
import MatchTree.Node.Document
import MatchTree.Yaml.Shape

/-!
Pattern trees written as text, in JSON or in YAML.

In YAML the outermost tree has to be a mapping, and its name may be any scalar; the arguments
are then documents like in JSON.
-/

set_option autoImplicit false
namespace MatchTree

inductive Format
  | json
  | yaml
  deriving DecidableEq, Repr

/-- The last part of a path that is not empty and not a single point. -/
def fileName (path : String) : List Char :=
  ((splitChars '/' path.toList).filter fun part => !part.isEmpty && part != ['.']).getLastD []

/-- What follows the last point of a file name; a point at its front does not count. -/
def extension? (name : List Char) : Option (List Char) :=
  if name = ['.', '.'] then none
  else
    match splitChars '.' name with
    | parts@(first :: _ :: _) =>
      if parts.length = 2 ∧ first.isEmpty then none else parts.getLast?
    | _ => none

/-- The format of a file, by its extension. -/
def Format.ofPath (path : String) : Format :=
  match extension? (fileName path) with
  | some name => if name.map Char.toLower = "json".toList then .json else .yaml
  | none => .yaml

namespace Node

def ofTree? (tree : Yaml.Tree) : Option Node := do
  let fields ← tree.record? false ["name", "arguments"]
  let name ← (← fields.lookup "name").text?
  let items ← match fields.lookup "arguments" with
    | some items => items.items?
    | none => some []
  let arguments ← items.mapM fun item => item.value?.map argumentOf
  return ⟨name, arguments⟩

/-- Fields of a document that say nothing about the tree. -/
def isForeign (key : String) : Bool := key != "name" && key != "arguments"

def read? (format : Format) (text : String) : Option Node :=
  match format with
  | .json => (Json.readSkipping? isForeign text.toList).bind ofValue?
  | .yaml => (Yaml.document? text.toList).bind ofTree?

end Node
end MatchTree
