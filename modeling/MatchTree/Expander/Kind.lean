import MatchTree.Expander.Arguments

/-!
The kinds of expanders: their names, and how each is built from its arguments.

Of several things wrong with the arguments, their number is reported first. A flag is read
before the text it goes with.
-/

set_option autoImplicit false
namespace MatchTree

inductive Kind
  | startsWith
  | endsWith
  | contains
  | notContains
  | matchRegex
  | greaterThan
  | lowerThan
  | inArray
  | count
  | oneOf
  | isEmpty
  | isNotEmpty
  | optional
  | hasProperty
  | each
  | structural
  | isEmail
  | isUrl
  | isIp
  | isDateTime
  | after
  | before
  | isTzOffset
  | isTzAbbreviation
  | isTzIdentifier
  | record
  | silent
  | impostor
  deriving DecidableEq, Repr

namespace Kind

/-- The kinds that every registry knows, in their usual order. -/
def builtin : List Kind :=
  [startsWith, endsWith, contains, notContains, matchRegex, greaterThan, lowerThan, inArray,
    count, oneOf, isEmpty, isNotEmpty, optional, hasProperty, each, structural, isEmail, isUrl,
    isIp, isDateTime, after, before, isTzOffset, isTzAbbreviation, isTzIdentifier]

/-- The name of a kind, which is also its identifier in the catalog. -/
def title : Kind → String
  | startsWith => "startsWith"
  | endsWith => "endsWith"
  | contains => "contains"
  | notContains => "notContains"
  | matchRegex => "matchRegex"
  | greaterThan => "greaterThan"
  | lowerThan => "lowerThan"
  | inArray => "inArray"
  | count => "count"
  | oneOf => "oneOf"
  | isEmpty => "isEmpty"
  | isNotEmpty => "isNotEmpty"
  | optional => "optional"
  | hasProperty => "hasProperty"
  | each => "repeat"
  | structural => "match"
  | isEmail => "isEmail"
  | isUrl => "isUrl"
  | isIp => "isIp"
  | isDateTime => "isDateTime"
  | after => "after"
  | before => "before"
  | isTzOffset => "isTzOffset"
  | isTzAbbreviation => "isTzAbbreviation"
  | isTzIdentifier => "isTzIdentifier"
  | record => "record"
  | silent => "silent"
  | impostor => "startsWith"

/-- What messages call the type of what is built: its full path, so that no other type is called
the same. -/
def typeName : Kind → String
  | startsWith => "patex::expanders::string::StartsWith"
  | endsWith => "patex::expanders::string::EndsWith"
  | contains => "patex::expanders::string::Contains"
  | notContains => "patex::expanders::string::NotContains"
  | matchRegex => "patex::expanders::string::MatchRegex"
  | greaterThan => "patex::expanders::numeric::GreaterThan"
  | lowerThan => "patex::expanders::numeric::LowerThan"
  | inArray => "patex::expanders::collection::InArray"
  | count => "patex::expanders::collection::Count"
  | oneOf => "patex::expanders::collection::OneOf"
  | isEmpty => "patex::expanders::collection::IsEmpty"
  | isNotEmpty => "patex::expanders::collection::IsNotEmpty"
  | optional => "patex::expanders::collection::Optional"
  | hasProperty => "patex::expanders::collection::HasProperty"
  | each => "patex::expanders::collection::Repeat"
  | structural => "patex::expanders::collection::StructuralMatch"
  | isEmail => "patex::expanders::format::IsEmail"
  | isUrl => "patex::expanders::format::IsUrl"
  | isIp => "patex::expanders::format::IsIp"
  | isDateTime => "patex::expanders::format::IsDateTime"
  | after => "patex::expanders::format::After"
  | before => "patex::expanders::format::Before"
  | isTzOffset => "patex::expanders::timezone::IsTzOffset"
  | isTzAbbreviation => "patex::expanders::timezone::IsTzAbbreviation"
  | isTzIdentifier => "patex::expanders::timezone::IsTzIdentifier"
  | record => "patex_test::Record"
  | silent => "patex_test::Silent"
  | impostor => "patex::registry::tests::Impostor"

/-- A test without arguments. -/
def plainTest (test : Test) (arguments : Arguments) : Except Failure Test := do
  arguments.checkCount 0 (some 0)
  return test

/-- A test of a text, with a flag that lets the case of letters not matter. The text is then
kept in lower case. -/
def needleTest (test : String → Bool → Test) (arguments : Arguments) : Except Failure Test := do
  arguments.checkCount 1 (some 2)
  let ignoreCase ← arguments.flag 1 false
  let needle ← arguments.string 0
  return test (if ignoreCase then String.ofList (Substring.lower needle.toList) else needle)
    ignoreCase

def regexTest (arguments : Arguments) : Except Failure Test := do
  arguments.checkCount 1 (some 1)
  let pattern ← arguments.string 0
  match Regex.compile pattern with
  | .ok regex => return .matchRegex regex
  | .error fault => throw (.invalidPattern arguments.expander pattern (fault.report pattern))

/-- A test against a number. -/
def numberTest (test : Finite → Test) (arguments : Arguments) : Except Failure Test := do
  arguments.checkCount 1 (some 1)
  return test (← arguments.number 0)

def countTest (arguments : Arguments) : Except Failure Test := do
  arguments.checkCount 1 (some 1)
  let i ← arguments.int 0
  if i < 0 then arguments.invalid (.negativeCount i) else return .count i.toInt.toNat

/-- A test against a date. -/
def momentTest (test : Moment → Test) (arguments : Arguments) : Except Failure Test := do
  arguments.checkCount 1 (some 1)
  let written ← arguments.string 0
  match Moment.read? written with
  | some m => return test m
  | none => arguments.invalid (.notDate written)

/-- Builds an expander of a kind, to record in a log. -/
def build (kind : Kind) (arguments : Arguments) (log : LogId) : Except Failure Expander :=
  let leaf (test : Except Failure Test) : Except Failure Expander := test.map (.test log)
  match kind with
  | startsWith => leaf (needleTest .startsWith arguments)
  | endsWith => leaf (needleTest .endsWith arguments)
  | contains => leaf (needleTest .contains arguments)
  | notContains => leaf (needleTest .notContains arguments)
  | matchRegex => leaf (regexTest arguments)
  | greaterThan => leaf (numberTest .greaterThan arguments)
  | lowerThan => leaf (numberTest .lowerThan arguments)
  | inArray => leaf do
    arguments.checkCount 1 (some 1)
    return .inArray (← arguments.literal 0)
  | count => leaf (countTest arguments)
  | oneOf => do
    arguments.checkCount 2 none
    return .oneOf log (← arguments.expanders)
  | isEmpty => leaf (plainTest .isEmpty arguments)
  | isNotEmpty => leaf (plainTest .isNotEmpty arguments)
  | optional => leaf (plainTest .optional arguments)
  | hasProperty => leaf do
    arguments.checkCount 1 (some 1)
    return .hasProperty (← arguments.string 0)
  | each => do
    arguments.checkCount 1 (some 2)
    let strict ← arguments.flag 1 true
    return .each log (← arguments.first) strict
  | structural => do
    arguments.checkCount 1 (some 1)
    return .structural log (← arguments.first)
  | isEmail => leaf (plainTest .isEmail arguments)
  | isUrl => leaf (plainTest .isUrl arguments)
  | isIp => leaf (plainTest .isIp arguments)
  | isDateTime => leaf (plainTest .isDateTime arguments)
  | after => leaf (momentTest .after arguments)
  | before => leaf (momentTest .before arguments)
  | isTzOffset => leaf (plainTest .isTzOffset arguments)
  | isTzAbbreviation => leaf (plainTest .isTzAbbreviation arguments)
  | isTzIdentifier => leaf (plainTest .isTzIdentifier arguments)
  | record =>
    let literals := arguments.literals
    .ok (.record log literals (arguments.items.length - literals.length))
  | silent => .ok (.silent log)
  | impostor => .ok (.impostor log)

end Kind
end MatchTree
