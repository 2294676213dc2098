import MatchTree.Event
import MatchTree.Registry.Implementation
import MatchTree.Table

/-!
Registries: the names that pattern trees may use, each bound to an implementation, and a
catalog of implementations under identifiers, from which names can be bound.

A name that is bound again gives way. A catalog entry gives way to a definition, but not to
the entry that binding a kind brings along.
-/

set_option autoImplicit false
namespace MatchTree

structure Registry where
  bindings : Table Implementation
  catalog : Table Implementation

/-- What an attempted change leaves: the registry, whatever became of it, what was announced,
and why the attempt failed, if it did. -/
structure Attempt where
  registry : Registry
  events : List Event
  failure? : Option Failure

/-- A change that cannot fail. -/
def Attempt.done (changed : Registry × List Event) : Attempt := ⟨changed.1, changed.2, none⟩

namespace Registry

def lookup (registry : Registry) (name : String) : Option Implementation :=
  registry.bindings.get? name

def get (registry : Registry) (name : String) : Except Failure Implementation :=
  match registry.lookup name with
  | some implementation => .ok implementation
  | none => .error (.undefinedExpander name)

def contains (registry : Registry) (name : String) : Bool := registry.bindings.contains name

def hasImplementation (registry : Registry) (identifier : String) : Bool :=
  registry.catalog.contains identifier

/-- The bound names, in ascending order. -/
def names (registry : Registry) : List String := registry.bindings.keys

def size (registry : Registry) : Nat := registry.bindings.length

/-- Binds a name, and announces what was bound to it before. -/
def bind (registry : Registry) (name : String) (implementation : Implementation) :
    Registry × List Event :=
  let events := match registry.lookup name with
    | some previous => [.overwritten name previous.typeName]
    | none => []
  ({ registry with bindings := registry.bindings.insert name implementation }, events)

/-- Binds a name to the catalog entry of an identifier. -/
def register (registry : Registry) (name identifier : String) : Attempt :=
  match registry.catalog.get? identifier with
  | some implementation =>
    let (registry, events) := registry.bind name implementation
    ⟨registry, .registering name identifier :: events, none⟩
  | none => ⟨registry, [], some (.unknownImplementation identifier)⟩

/-- Binds a name to an implementation with a title of its own, under which it also enters the
catalog if the title is still free there. -/
def registerTitled (registry : Registry) (name title : String) (implementation : Implementation) :
    Registry × List Event :=
  let cataloged := (registry.catalog.get? title).getD implementation
  let warning :=
    if cataloged.typeName = implementation.typeName then []
    else [.alreadyCataloged title cataloged.typeName implementation.typeName]
  let catalog := registry.catalog.insert title cataloged
  let (registry, events) := { registry with catalog := catalog }.bind name implementation
  (registry, warning ++ .registeringKind name title :: events)

/-- Binds a name to a kind, whose name is its title. -/
def registerKind (registry : Registry) (name : String) (kind : Kind) : Registry × List Event :=
  registry.registerTitled name kind.title (.ofKind kind)

def registerFactory (registry : Registry) (name : String) (implementation : Implementation) :
    Registry × List Event :=
  let (registry, events) := registry.bind name implementation
  (registry, .registeringFactory name implementation.typeName :: events)

def defineImplementation (registry : Registry) (identifier : String)
    (implementation : Implementation) : Registry :=
  { registry with catalog := registry.catalog.insert identifier implementation }

/-- Binds kinds under their own names, one after the other. -/
def registerKinds (registry : Registry) : List Kind → Registry × List Event
  | [] => (registry, [])
  | kind :: rest =>
    let (registry, events) := registry.registerKind kind.title kind
    let (registry, later) := registry.registerKinds rest
    (registry, events ++ later)

def registerBuiltins (registry : Registry) : Registry × List Event :=
  registry.registerKinds Kind.builtin

def defineBuiltins (registry : Registry) : Registry :=
  Kind.builtin.foldl (fun registry kind =>
    registry.defineImplementation kind.title (.ofKind kind)) registry

/-- No names; the usual kinds are in the catalog. -/
def empty : Registry := defineBuiltins ⟨[], []⟩

/-- The usual kinds under their own names. -/
def standard : Registry := empty.registerBuiltins.1

/-- Back to the usual names; announces their binding. -/
def reset (_ : Registry) : Registry × List Event := empty.registerBuiltins

/-- The text that shows a registry. -/
def text (registry : Registry) : String :=
  let names := ", ".intercalate (registry.names.map quote)
  "ExpanderRegistry \x7b names: [" ++ names ++ "], implementations: " ++
    toString registry.catalog.length ++ " \x7d"

end Registry
end MatchTree
