import MatchTree.Node.Written
import MatchTree.Registry.Basic

/-!
Alias files: names to bind, each with the identifier of its implementation.

Every identifier of a file is looked for in the catalog before any name is bound, so a file is
applied as a whole or not at all. Names are bound in ascending order.
-/

set_option autoImplicit false
namespace MatchTree

structure Config where
  aliases : Table String
  ascending : aliases.Ascending
  deriving Repr, DecidableEq

namespace Config

/-- No aliases. -/
def empty : Config := ⟨[], .nil⟩

/-- Aliases in any order; of several for one name the last counts. -/
def ofList (pairs : List (String × String)) : Config :=
  ⟨Table.ofList pairs, Table.ascending_ofList pairs⟩

def ofAliases? : Value → Option Config
  | .object fields => do
    let pairs ← fields.mapM fun (name, v) => v.asString.map fun s => (name, s)
    return ofList pairs
  | _ => none

/-- An object with at most the field `aliases`, or an array of at most that one part. -/
def ofValue? : Value → Option Config
  | .object [] | .array [] => some empty
  | .object [(key, v)] => if key = "aliases" then ofAliases? v else none
  | .array [v] => ofAliases? v
  | _ => none

def ofTree? (tree : Yaml.Tree) : Option Config := do
  let fields ← tree.record? true ["aliases"]
  match fields.lookup "aliases" with
  | none => return .empty
  | some aliases =>
    let entries ← aliases.entries?
    let pairs ← entries.mapM fun (name, item) => item.text?.map fun s => (name, s)
    return ofList pairs

def read? (format : Format) (text : String) : Option Config :=
  match format with
  | .json => (Json.read? text.toList).bind ofValue?
  | .yaml => (Yaml.document? text.toList).bind ofTree?

def toValue (config : Config) : Value :=
  .object [("aliases", .object (config.aliases.map fun (name, s) => (name, .string s)))]

end Config

namespace Registry

/-- Binds names one after the other, up to the first whose identifier is not in the catalog;
the names before it stay bound. -/
def registerAll (registry : Registry) : List (String × String) → Attempt
  | [] => ⟨registry, [], none⟩
  | (name, identifier) :: rest =>
    let first := registry.register name identifier
    match first.failure? with
    | some _ => first
    | none =>
      let later := first.registry.registerAll rest
      { later with events := first.events ++ later.events }

def apply (registry : Registry) (config : Config) : Attempt :=
  match config.aliases.find? fun (_, identifier) => !registry.hasImplementation identifier with
  | some (_, identifier) => ⟨registry, [], some (.unknownImplementation identifier)⟩
  | none =>
    let attempt := registry.registerAll config.aliases
    match attempt.failure? with
    | some _ => attempt
    | none => { attempt with events := attempt.events ++ [.applied config.aliases.length] }

end Registry
end MatchTree
