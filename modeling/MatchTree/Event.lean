/-!
What changing a registry and resolving a tree announce.
-/

set_option autoImplicit false
namespace MatchTree

inductive Level
  | trace
  | debug
  | warn
  deriving DecidableEq, Repr

def Level.text : Level → String
  | trace => "TRACE"
  | debug => "DEBUG"
  | warn => "WARN"

inductive Event
  | registering (expander identifier : String)
  | registeringKind (expander implementation : String)
  | registeringFactory (expander typeName : String)
  | overwritten (expander previous : String)
  | alreadyCataloged (identifier cataloged ignored : String)
  | applied (aliases : Nat)
  | resolving (expander : String) (arguments depth : Nat)
  | resolvingNested (expander : String) (position : Nat) (child : String)
  deriving DecidableEq, Repr

namespace Event

def level : Event → Level
  | overwritten _ _ | alreadyCataloged _ _ _ => .warn
  | resolvingNested _ _ _ => .trace
  | _ => .debug

def message : Event → String
  | registering _ _ | registeringKind _ _ => "registering expander"
  | registeringFactory _ _ => "registering expander factory"
  | overwritten _ _ => "expander definition overwritten"
  | alreadyCataloged _ _ _ => "implementation identifier already cataloged"
  | applied _ => "applied registry config"
  | resolving _ _ _ => "resolving expander"
  | resolvingNested _ _ _ => "resolving nested expander"

def fields : Event → List (String × String)
  | registering expander identifier => [("expander", expander), ("identifier", identifier)]
  | registeringKind expander implementation =>
    [("expander", expander), ("implementation", implementation)]
  | registeringFactory expander typeName => [("expander", expander), ("type_name", typeName)]
  | overwritten expander previous => [("expander", expander), ("previous", previous)]
  | alreadyCataloged identifier cataloged ignored =>
    [("identifier", identifier), ("cataloged", cataloged), ("ignored", ignored)]
  | applied aliases => [("aliases", toString aliases)]
  | resolving expander arguments depth =>
    [("expander", expander), ("arguments", toString arguments), ("depth", toString depth)]
  | resolvingNested expander position child =>
    [("expander", expander), ("position", toString position), ("child", child)]

end Event
end MatchTree
