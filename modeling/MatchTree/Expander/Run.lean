import MatchTree.Expander.Basic
import MatchTree.Trace.Reporter

/-!
Running an expander on a value.

A run records its entrance, then what the expanders inside it record, and then its outcome.
It changes the memory of the expander and of those inside it that were run, and nothing of
the others. An expander learns of an expander inside it only whether it accepted, and then
reads the error that it remembers.
-/

set_option autoImplicit false
namespace MatchTree

/-- The result of a run. -/
structure Pass where
  accepted : Bool
  memory : Memory
  journal : Journal

namespace Pass

def error (pass : Pass) : Option String := pass.memory.error

end Pass

/-- An outcome part way through a run, with what the run has changed so far. -/
structure Finding where
  outcome : Except String Unit
  memories : List Memory
  journal : Journal

namespace Expander

/-- Reports the outcome of a check on a value. -/
def conclude (name : String) (log : LogId) (v : Value) (matched : Nat) (finding : Finding) : Pass :=
  let (accepted, reporter, journal) :=
    Reporter.finish ⟨name, log, none⟩ v finding.outcome finding.journal
  ⟨accepted, ⟨reporter.error, matched, finding.memories⟩, journal⟩

/-- Reports the entrance of an expander. -/
def enter (name : String) (log : LogId) (v : Value) (journal : Journal) : Journal :=
  (Reporter.start name log).entrance v journal

/-- What a check without other expanders has found. -/
def verdict (outcome : Except Mismatch Unit) (memory : Memory) (journal : Journal) : Finding :=
  ⟨outcome.mapError Mismatch.message, memory.children, journal⟩

/-- Holds the items of an array against a pattern, up to the first that is refused; gives how
many matched. -/
def runItems (check : List Memory → Value → Journal → Finding) :
    (matched : Nat) → List Value → List Memory → Journal → Nat × Finding
  | matched, [], memories, journal => (matched, ⟨.ok (), memories, journal⟩)
  | matched, item :: rest, memories, journal =>
    let finding := check memories item journal
    match finding.outcome with
    | .ok () => runItems check (matched + 1) rest finding.memories finding.journal
    | .error error =>
      let reason := Mismatch.atItem matched error
      (matched, { finding with outcome := .error reason.message })

/-- The error that an expander remembers; if it remembers none, a text made from its name. -/
def errorOr (child : Expander) (memory : Memory) (otherwise : String → String) : String :=
  memory.error.getD (otherwise child.name)

mutual

def run : Expander → Memory → Value → Journal → Pass
  | .test log t, memory, v, journal =>
    conclude t.title log v 0 (verdict (t.check v) memory (enter t.title log v journal))
  | .oneOf log children, memory, v, journal =>
    conclude "oneOf" log v 0
      (runFirst children memory.children v [] (enter "oneOf" log v journal))
  | .each log pattern strict, memory, v, journal =>
    let journal := enter "repeat" log v journal
    match v with
    | .array items =>
      let (matched, finding) :=
        runItems (runPattern pattern strict) 0 items memory.children journal
      conclude "repeat" log v matched finding
    | v => conclude "repeat" log v 0 (verdict (.error (.notArray v)) memory journal)
  | .structural log pattern, memory, v, journal =>
    conclude "match" log v 0
      (runPattern pattern false memory.children v (enter "match" log v journal))
  | .record log _ _, memory, v, journal =>
    conclude "record" log v 0 (verdict (.ok ()) memory (enter "record" log v journal))
  | .silent log, memory, v, journal => ⟨false, memory, enter "silent" log v journal⟩
  | .impostor log, memory, v, journal => ⟨true, memory, enter "startsWith" log v journal⟩

/-- Runs children in order up to the first that accepts; `errors` are those so far. -/
def runFirst : List Expander → List Memory → Value → (errors : List String) → Journal → Finding
  | [], memories, _, errors, journal =>
    ⟨.error (Mismatch.noneMatched errors).message, memories, journal⟩
  | child :: rest, memories, v, errors, journal =>
    let pass := child.run (Memory.first memories) v journal
    if pass.accepted then ⟨.ok (), pass.memory :: memories.drop 1, pass.journal⟩
    else
      let error := errorOr child pass.memory fun name => s!"#{name} did not match"
      let finding := runFirst rest (memories.drop 1) v (errors ++ [error]) pass.journal
      { finding with memories := pass.memory :: finding.memories }

/-- Holds a value against a pattern. -/
def runPattern : Argument Expander → (strict : Bool) → List Memory → Value → Journal → Finding
  | .literal pattern, strict, memories, v, journal =>
    ⟨(Structure.compare strict pattern v).mapError Mismatch.message, memories, journal⟩
  | .nested child, _, memories, v, journal =>
    let pass := child.run (Memory.first memories) v journal
    let outcome : Except String Unit :=
      if pass.accepted then .ok ()
      else .error (errorOr child pass.memory fun name => (Mismatch.rejected v name).message)
    ⟨outcome, [pass.memory], pass.journal⟩

end
end Expander
end MatchTree
