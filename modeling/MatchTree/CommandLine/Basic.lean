import MatchTree.CommandLine.Invocation
import MatchTree.Registry.Session

/-!
Running an invocation on the files it names.

The stages are the registry with its aliases, the pattern, the value, and the resolution; the
first that fails is reported, and nothing else is shown. The exit code is 0 for a match, 1
for a value that does not match, and 2 for a failure.

What a reader tells about a text that it refuses is up to the reader, and a parameter here.
-/

set_option autoImplicit false
namespace MatchTree

/-- What a command leaves: an exit code, what it shows, and on the error stream the warnings that
were announced and then its own words. -/
structure Report where
  code : Nat
  stdout : String
  warnings : List Event
  error : String
  deriving DecidableEq, Repr

/-- The contents of files by path, or why a file cannot be read. -/
abbrev Files := String → Except String String

/-- Why a text is refused, in the words of its reader: a file of aliases, a pattern, a value. -/
structure Wording where
  config : Format → String → String
  node : Format → String → String
  value : String → String

/-- A reader that tells why it refuses a text. -/
def telling {α : Type} (read? : Format → String → Option α) (words : Format → String → String)
    (format : Format) (text : String) : Except String α :=
  match read? format text with
  | some result => .ok result
  | none => .error (words format text)

namespace Invocation

def version : String := "patex 0.1.0"

def usage : String :=
  "usage: [--registry FILE] (match PATTERN VALUE [--trace] | check PATTERN | info)"

section
variable (files : Files) (wording : Wording)

/-- Reads a file in its format. -/
def load {α : Type} (read : Format → String → Except String α) (path : String) :
    Except Failure α :=
  let outcome := do
    let text ← files path
    read (Format.ofPath path) text
  outcome.mapError fun reason => .invalidConfig (path ++ ": " ++ reason)

def loadConfig (path : String) : Except Failure Config :=
  load files (telling Config.read? wording.config) path

def loadNode (path : String) : Except Failure Node :=
  load files (telling Node.read? wording.node) path

/-- The usual registry with the aliases of a file, if one is named, and what is announced of
them. -/
def loadRegistry (path : Option String) : Except String Registry × List Event :=
  match path with
  | none => (.ok .standard, [])
  | some path =>
    let failed (failure : Failure) := .error ("registry config: " ++ failure.message)
    match loadConfig files wording path with
    | .error failure => (failed failure, [])
    | .ok config =>
      let attempt := Registry.standard.apply config
      match attempt.failure? with
      | some failure => (failed failure, attempt.events)
      | none => (.ok attempt.registry, attempt.events)

def readValue (text : String) : Except String Value :=
  match Json.read? text.toList with
  | some v => .ok v.tidy
  | none => .error ("value is not valid JSON: " ++ wording.value text)

end

def resolve (registry : Registry) (node : Node) (log : LogId) : Except String Expander :=
  (registry.resolve node log).1.mapError fun failure => "pattern invalid: " ++ failure.message

/-- The lines of a run: the verdict, with the error of a failed one. -/
def verdictText (pass : Pass) : String :=
  if pass.accepted then "matched\n"
  else "not matched\n" ++ (match pass.error with
    | some error => "  " ++ error ++ "\n"
    | none => "")

/-- With a registry, the exit code of success and what it shows. -/
def perform (files : Files) (wording : Wording) (registry : Registry) :
    Command → Except String (Nat × String)
  | .run pattern value trace => do
    let node ← (loadNode files wording pattern).mapError Failure.message
    let v ← readValue wording value
    let (log, journal) := Journal.empty.addLog
    let e ← resolve registry node log
    let pass := e.run .fresh v journal
    let shown := if trace then (pass.journal.log log).text else ""
    return (if pass.accepted then 0 else 1, verdictText pass ++ shown)
  | .check pattern => do
    let node ← (loadNode files wording pattern).mapError Failure.message
    let _ ← resolve registry node 0
    return (0, "Pattern valid\n")
  | .info =>
    let lines := registry.names.map fun name => "  " ++ name ++ "\n"
    return (0, "Registered expanders:\n" ++ String.join lines)

/-- Nothing but warnings is shown of what is announced, and only applying aliases gives any. -/
def report (files : Files) (wording : Wording) (invocation : Invocation) : Report :=
  let (registry, announced) := loadRegistry files wording invocation.registry
  let warnings := announced.filter fun event => event.level == .warn
  let outcome := do
    let registry ← registry
    perform files wording registry invocation.command
  match outcome with
  | .ok (code, stdout) => ⟨code, stdout, warnings, ""⟩
  | .error reason => ⟨2, "", warnings, "error: " ++ reason ++ "\n"⟩

/-- The files that an invocation reads. -/
def paths (invocation : Invocation) : List String :=
  invocation.registry.toList ++ match invocation.command with
    | .run pattern _ _ => [pattern]
    | .check pattern => [pattern]
    | .info => []

end Invocation

def Request.report (files : Files) (wording : Wording) : Request → Report
  | invoke invocation => invocation.report files wording
  | version => ⟨0, Invocation.version ++ "\n", [], ""⟩
  | help => ⟨0, Invocation.usage ++ "\n", [], ""⟩
  | misuse => ⟨2, "", [], Invocation.usage ++ "\n"⟩

end MatchTree
