import MatchTree.Registry.Config

/-!
The ways a registry changes, as data.
-/

set_option autoImplicit false
namespace MatchTree

inductive Change
  | register (name identifier : String)
  | registerTitled (name title : String) (implementation : Implementation)
  | registerKind (name : String) (kind : Kind)
  | registerFactory (name : String) (implementation : Implementation)
  | defineImplementation (identifier : String) (implementation : Implementation)
  | registerBuiltins
  | defineBuiltins
  | apply (config : Config)
  | reset

namespace Registry

def change (registry : Registry) : Change → Attempt
  | .register name identifier => registry.register name identifier
  | .registerTitled name title implementation =>
    .done (registry.registerTitled name title implementation)
  | .registerKind name kind => .done (registry.registerKind name kind)
  | .registerFactory name implementation => .done (registry.registerFactory name implementation)
  | .defineImplementation identifier implementation =>
    .done (registry.defineImplementation identifier implementation, [])
  | .registerBuiltins => .done registry.registerBuiltins
  | .defineBuiltins => .done (registry.defineBuiltins, [])
  | .apply config => registry.apply config
  | .reset => .done registry.reset

/-- The registry that an attempted change leaves. -/
def after (registry : Registry) (change : Change) : Registry := (registry.change change).registry

end Registry
end MatchTree
