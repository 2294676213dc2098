/-!
What a command line asks for.

A word that begins with a hyphen is an option, a hyphen alone apart; after two hyphens alone
no word is. The file of aliases may be named before the command and after it, once in each
place; the one after it counts.
-/

set_option autoImplicit false
namespace MatchTree

inductive Command
  | run (pattern value : String) (trace : Bool)
  | check (pattern : String)
  | info
  deriving DecidableEq, Repr

structure Invocation where
  registry : Option String
  command : Command
  deriving DecidableEq, Repr

/-- An invocation, or what the command line asks for instead. -/
inductive Request
  | invoke (invocation : Invocation)
  | version
  | help
  | misuse
  deriving DecidableEq, Repr

namespace CommandLine

inductive Word
  | plain (text : String)
  | registry (file : String)
  | trace
  | version
  | help
  | stop
  | unknown
  deriving DecidableEq, Repr

def isOption (word : List Char) : Bool := word.head? == some '-' && 1 < word.length

/-- The file after the option for aliases; it cannot be empty. -/
def registryWord (file : String) : Word := if file.isEmpty then .unknown else .registry file

/-- A cluster of one-letter options. -/
def letterWord : Char → Word
  | 't' => .trace
  | 'V' => .version
  | 'h' => .help
  | _ => .unknown

def optionWords (word : String) : List Word :=
  if word = "--trace" then [.trace]
  else if word = "--version" then [.version]
  else if word = "--help" then [.help]
  else match word.toList with
    | '-' :: '-' :: rest =>
      if "registry=".toList.isPrefixOf rest then [registryWord (String.ofList (rest.drop 9))]
      else [.unknown]
    | '-' :: letters => letters.map letterWord
    | _ => [.plain word]

def words : List String → List Word
  | [] => []
  | "--" :: rest => .stop :: rest.map .plain
  | "--registry" :: file :: rest =>
    (if isOption file.toList then .unknown else registryWord file) :: words rest
  | word :: rest => (if isOption word.toList then optionWords word else [.plain word]) ++ words rest

/-- What has been read of the words after a command. -/
structure Reading where
  registry : Option String
  trace : Bool
  plain : List String

/-- Reads the words after a command that takes so many plain ones, and the trace option only
if it is allowed. -/
def readRest (limit : Nat) (traceAllowed : Bool) : Reading → List Word → Except Request Reading
  | reading, [] => .ok reading
  | reading, word :: rest =>
    match word with
    | .registry file =>
      if reading.registry.isSome then .error .misuse
      else readRest limit traceAllowed { reading with registry := some file } rest
    | .trace =>
      if reading.trace || !traceAllowed then .error .misuse
      else readRest limit traceAllowed { reading with trace := true } rest
    | .plain text =>
      if reading.plain.length < limit then
        readRest limit traceAllowed { reading with plain := reading.plain ++ [text] } rest
      else .error .misuse
    | .stop => readRest limit traceAllowed reading rest
    | .help => .error .help
    | .version | .unknown => .error .misuse

def readCommand (registry : Option String) (command : String) (rest : List Word) : Request :=
  let read (limit : Nat) (traceAllowed : Bool) : Except Request Reading :=
    readRest limit traceAllowed ⟨none, false, []⟩ rest
  let outcome : Except Request Invocation :=
    if command = "match" then do
      let reading ← read 2 true
      match reading.plain with
      | [pattern, value] =>
        if pattern.isEmpty then throw .misuse
        else return ⟨reading.registry <|> registry, .run pattern value reading.trace⟩
      | _ => throw .misuse
    else if command = "check" then do
      let reading ← read 1 false
      match reading.plain with
      | [pattern] =>
        if pattern.isEmpty then throw .misuse
        else return ⟨reading.registry <|> registry, .check pattern⟩
      | _ => throw .misuse
    else if command = "info" then do
      let reading ← read 0 false
      return ⟨reading.registry <|> registry, .info⟩
    else if command = "help" then throw .help
    else throw .misuse
  match outcome with
  | .ok invocation => .invoke invocation
  | .error request => request

/-- Reads the words before a command. -/
def readWords (registry : Option String) : List Word → Request
  | .registry file :: rest => if registry.isSome then .misuse else readWords (some file) rest
  | .plain command :: rest => readCommand registry command rest
  | .version :: _ => .version
  | .help :: _ => .help
  | _ => .misuse

def request (args : List String) : Request := readWords none (words args)

end CommandLine
end MatchTree
