import MatchTree.Registry.Resolve

/-!
Implementations that serve to watch a resolution: some accept any arguments, some build what
is no expander, and one always refuses.
-/

set_option autoImplicit false
namespace MatchTree

namespace Implementation

/-- A text in the place of an expander. -/
def notAnExpander : Implementation := foreign "alloc::string::String"

/-- Builds an expander that accepts everything, under a type name of its own. -/
def erasedRecord : Implementation := { ofKind .record with typeName := "ErasedRecord" }

/-- Refuses any arguments and says how many there were. -/
def refusing : Implementation where
  typeName := Kind.record.typeName
  build arguments _ :=
    arguments.invalid (.other s!"refused {arguments.items.length} arguments")

end Implementation

namespace Registry

/-- Adds an expander that accepts everything, and a name that builds none. -/
def withRecord (registry : Registry) : Registry :=
  let registry := (registry.registerKind Kind.record.title .record).1
  (registry.registerFactory "notAnExpander" .notAnExpander).1

/-- The registry that fixtures run against. -/
def observing : Registry := standard.withRecord

/-- With an expander that refuses everything and records no outcome. -/
def observingSilence : Registry := (observing.registerKind Kind.silent.title .silent).1

end Registry
end MatchTree
