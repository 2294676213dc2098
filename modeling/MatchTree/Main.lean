import MatchTree.CommandLine.Basic

/-!
The command line program.
-/

set_option autoImplicit false
open MatchTree

def readFile (path : String) : IO (String × Except String String) := do
  try
    return (path, .ok (← IO.FS.readFile path))
  catch e => return (path, .error (toString e))

/-- What is said here about a text that cannot be read. -/
def wording : Wording where
  config _ _ := "not a list of aliases"
  node _ _ := "not a pattern"
  value _ := "not a JSON text"

/-- A warning on one line, with its fields. -/
def warningLine (event : Event) : String :=
  let fields := event.fields.map fun (key, text) => " " ++ key ++ "=" ++ quote text
  event.level.text ++ " " ++ event.message ++ String.join fields ++ "\n"

def main (args : List String) : IO UInt32 := do
  let request := CommandLine.request args
  let read ← match request with
    | .invoke invocation => invocation.paths.mapM readFile
    | _ => pure []
  let files : Files := fun path => (read.lookup path).getD (.error "not read")
  let report := request.report files wording
  IO.eprint (String.join (report.warnings.map warningLine))
  IO.print report.stdout
  IO.eprint report.error
  return report.code.toUInt32
