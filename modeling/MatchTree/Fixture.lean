import MatchTree.Registry.Observer
import MatchTree.Registry.Session

/-!
Fixtures: a pattern tree with cases, each a value and whether it has to match, or with the
failure that resolving it has to end in. They are written in YAML, one to a document.
-/

set_option autoImplicit false
namespace MatchTree

namespace Fixture

structure Case where
  name : String
  value : Value
  expect : Bool
  deriving Repr

/-- A failure by its kind, and a part of its message. -/
structure Expectation where
  kind : String
  part : Option String
  deriving Repr

structure Result where
  name : String
  expected : Bool
  actual : Bool
  error : Option String
  deriving Repr

def Result.passed (result : Result) : Bool := result.actual == result.expected

inductive Outcome
  | cases (results : List Result)
  | expectedError (failure : Failure)
  | unexpectedError (failure : Failure)
  | wrongError (expected : String) (failure : Failure)
  | missingError (expected : String)
  deriving Repr

end Fixture

structure Fixture where
  name : String
  description : String
  expander : Node
  cases : List Fixture.Case
  expectError : Option Fixture.Expectation
  deriving Repr

namespace Fixture

def Case.ofTree? (tree : Yaml.Tree) : Option Case := do
  let fields ← tree.record? true ["name", "value", "expect"]
  let name ← (← fields.lookup "name").text?
  let v ← match fields.lookup "value" with
    | some v => v.value?
    | none => some .null
  let expect ← (← fields.lookup "expect").flag?
  return ⟨name, v.tidy, expect⟩

def Expectation.ofTree? (tree : Yaml.Tree) : Option Expectation := do
  let fields ← tree.record? true ["kind", "contains"]
  let kind ← (← fields.lookup "kind").text?
  let part ← match fields.lookup "contains" with
    | some part => part.optional?
    | none => some none
  return ⟨kind, ← part.mapM Yaml.Tree.text?⟩

def ofTree? (tree : Yaml.Tree) : Option Fixture := do
  let fields ← tree.record? true ["name", "description", "expander", "cases", "expect_error"]
  let name ← (← fields.lookup "name").text?
  let description ← (← fields.lookup "description").text?
  let expander ← Node.ofTree? (← fields.lookup "expander")
  let cases ← match fields.lookup "cases" with
    | some cases => cases.items?
    | none => some []
  let cases ← cases.mapM Case.ofTree?
  let expectation ← match fields.lookup "expect_error" with
    | some expectation => expectation.optional?
    | none => some none
  return ⟨name, description, expander, cases, ← expectation.mapM Expectation.ofTree?⟩

/-- The fixtures of a text, one for each document. -/
def readAll? (text : String) : Option (List Fixture) := do
  (← Yaml.documents? text.toList).mapM ofTree?

/-- The fixture of a text with one document. -/
def read? (text : String) : Option Fixture := do
  ofTree? (← Yaml.document? text.toList)

/-- Runs one expander on the cases in order. -/
def runCases (e : Expander) : Memory → Journal → List Case → List Result
  | _, _, [] => []
  | memory, journal, case :: rest =>
    let pass := e.run memory case.value journal
    ⟨case.name, case.expect, pass.accepted, pass.error⟩ ::
      runCases e pass.memory pass.journal rest

/-- Whether a failure is of the expected kind, with the expected part in its message. -/
def Expectation.admits (expectation : Expectation) (failure : Failure) : Bool :=
  failure.kind == expectation.kind &&
    expectation.part.all fun part => Substring.occurs part.toList failure.message.toList

def run (fixture : Fixture) : Outcome :=
  let (log, journal) := Journal.empty.addLog
  match (Registry.observing.resolve fixture.expander log).1, fixture.expectError with
  | .ok e, none => .cases (runCases e .fresh journal fixture.cases)
  | .ok _, some expectation => .missingError expectation.kind
  | .error failure, none => .unexpectedError failure
  | .error failure, some expectation =>
    if expectation.admits failure then .expectedError failure
    else .wrongError expectation.kind failure

/-- Whether an outcome is a success. -/
def Outcome.passed : Outcome → Bool
  | .cases results => results.all Result.passed
  | .expectedError _ => true
  | _ => false

/-- What is said of a case that comes out otherwise than it has to. -/
def Result.complaint (fixture : String) (result : Result) : String :=
  let error := match result.error with
    | some error => "Some(" ++ quote error ++ ")"
    | none => "None"
  s!"Fixture '{fixture}' case '{result.name}' failed: " ++
    s!"expected {result.expected}, got {result.actual} ({error})"

/-- What is said of an outcome that is no success; of several such cases, of the first. -/
def Outcome.complaint? (fixture : String) : Outcome → Option String
  | .cases results =>
    (results.find? fun result => !result.passed).map (Result.complaint fixture)
  | .expectedError _ => none
  | .unexpectedError failure => some s!"Fixture '{fixture}' failed to resolve: {failure.message}"
  | .wrongError expected failure =>
    some s!"Fixture '{fixture}' expected {expected} error, got {failure.kind} ({failure.message})"
  | .missingError expected =>
    some s!"Fixture '{fixture}' expected {expected} error, but resolution succeeded"

/-- Runs a fixture and fails unless it is a success. -/
def assert (fixture : Fixture) : Except String Unit :=
  match fixture.run.complaint? fixture.name with
  | some complaint => .error complaint
  | none => .ok ()

end Fixture
end MatchTree
