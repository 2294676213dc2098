import MatchTree.Regex.Named
import MatchTree.Text.Blank

/-!
Reading a pattern.

The reader keeps the groups it is inside of on a stack, and inside a bracketed class likewise
the brackets and pending set operations. In verbose mode white space and comments between the
parts of a pattern are skipped. Every step takes at least one character, so the number of
characters bounds the number of steps.
-/

set_option autoImplicit false
namespace MatchTree.Regex

/-- Why a pattern is refused. -/
inductive Fault
  | classEscape
  | classRange
  | classRangeLiteral
  | classUnclosed
  | decimal
  | escape
  | escapeCode
  | escapeEnd
  | flagDuplicate
  | flagDangling
  | flagEnd
  | flagUnknown
  | groupName
  | groupNameDuplicate
  | groupNameEnd
  | groupUnclosed
  | groupUnopened
  | depth
  | countInvalid
  | countEmpty
  | countUnclosed
  | repetitionMissing
  | wordEdge
  | reference
  | lookAround
  | property
  | notUnicode
  | notText
  | size
  deriving DecidableEq, Repr

def Fault.message : Fault → String
  | .classEscape => "invalid escape sequence found in character class"
  | .classRange => "invalid character class range, the start must be <= the end"
  | .classRangeLiteral => "invalid range boundary, must be a literal"
  | .classUnclosed => "unclosed character class"
  | .decimal => "decimal literal invalid"
  | .escape => "unrecognized escape sequence"
  | .escapeCode => "invalid hexadecimal escape"
  | .escapeEnd => "incomplete escape sequence, reached end of pattern prematurely"
  | .flagDuplicate => "duplicate flag"
  | .flagDangling => "dangling flag negation operator"
  | .flagEnd => "expected flag but got end of regex"
  | .flagUnknown => "unrecognized flag"
  | .groupName => "invalid capture group name"
  | .groupNameDuplicate => "duplicate capture group name"
  | .groupNameEnd => "unclosed capture group name"
  | .groupUnclosed => "unclosed group"
  | .groupUnopened => "unopened group"
  | .depth => "exceed the maximum number of nested parentheses/brackets (250)"
  | .countInvalid => "invalid repetition count range, the start must be <= the end"
  | .countEmpty => "repetition quantifier expects a valid decimal"
  | .countUnclosed => "unclosed counted repetition"
  | .repetitionMissing => "repetition operator missing expression"
  | .wordEdge => "unrecognized or unclosed special word boundary assertion"
  | .reference => "backreferences are not supported"
  | .lookAround =>
    "look-around, including look-ahead and look-behind, is not supported"
  | .property => "Unicode property not found"
  | .notUnicode => "Unicode not allowed here"
  | .notText => "pattern can match invalid UTF-8"
  | .size => "Compiled regex exceeds size limit of 10485760 bytes."

/-- What is told of a pattern that is at fault: the pattern and the fault, unless the pattern
can be read and is only too large. -/
def Fault.report (pattern : String) (fault : Fault) : String :=
  if fault = .size then fault.message
  else "regex parse error:\n    " ++ pattern ++ "\nerror: " ++ fault.message

/-- Skips white space and comments; `inComment` says that a comment is open. -/
def skipVerbose : Bool → List Char → List Char
  | _, [] => []
  | true, c :: rest => skipVerbose (c ≠ '\n') rest
  | false, c :: rest =>
    if isBlank c then skipVerbose false rest
    else if c = '#' then skipVerbose true rest
    else c :: rest

def skip (verbose : Bool) (text : List Char) : List Char :=
  if verbose then skipVerbose false text else text

/-- Drops one character and what verbose mode skips after it. -/
def advance (verbose : Bool) (text : List Char) : List Char :=
  skip verbose (text.drop 1)

def isMeta (c : Char) : Bool :=
  "\\.+*?()|[]\x7b\x7d^$#&-~".toList.contains c

/-- Whether a backslash before the character gives the character itself. -/
def isEscapable (c : Char) : Bool :=
  isMeta c || (c.toNat < 0x80 && !c.isAlphanum && c != '<' && c != '>')

/-- Digits, in verbose mode with skipped text between them. The fuel is the text's length. -/
def takeDigits (verbose : Bool) : Nat → List Char → List Char × List Char
  | 0, text => ([], text)
  | fuel + 1, text =>
    match text with
    | c :: _ =>
      if c.isDigit then
        let (digits, rest) := takeDigits verbose fuel (advance verbose text)
        (c :: digits, rest)
      else ([], text)
    | [] => ([], [])

/-- A decimal with white space around it; `none` stands for no digits at all. -/
def readDecimal (verbose : Bool) (text : List Char) :
    Except Fault (Option Nat × List Char) :=
  let (digits, rest) := takeDigits verbose text.length (text.dropWhile isBlank)
  let rest := rest.dropWhile isBlank
  if digits.isEmpty then .ok (none, rest)
  else
    let n := digits.foldl (fun total c => 10 * total + (c.toNat - '0'.toNat)) 0
    if n < 2 ^ 32 then .ok (some n, rest) else .error .decimal

/-- The bounds of a counted repetition, from just after the opening brace to just after the
closing one. -/
def readBounds (verbose : Bool) (text : List Char) :
    Except Fault ((Nat × Option Nat) × List Char) := do
  if text.isEmpty then throw .countUnclosed
  let (first, rest) ← readDecimal verbose text
  match rest with
  | ',' :: _ =>
    let rest := advance verbose rest
    match rest with
    | [] => throw .countUnclosed
    | '\x7d' :: rest =>
      match first with
      | none => throw .countEmpty
      | some least => return ((least, none), rest)
    | _ =>
      let (second, rest) ← readDecimal verbose rest
      match second, rest with
      | none, _ => throw .countEmpty
      | some most, '\x7d' :: rest => return ((first.getD 0, some most), rest)
      | some _, _ => throw .countUnclosed
  | '\x7d' :: rest =>
    match first with
    | none => throw .countEmpty
    | some n => return ((n, some n), rest)
  | [] => throw .countUnclosed
  | _ :: _ =>
    match first with
    | none => throw .countEmpty
    | some _ => throw .countUnclosed

def charOfCode (code : Nat) : Except Fault Char :=
  if h : code.isValidChar then .ok (Char.ofNatAux code h) else .error .escapeCode

/-- The rest of a code in braces. The fuel is the text's length. -/
def readBraceCode (verbose : Bool) : Nat → List Char → List Char →
    Except Fault (List Char × List Char)
  | 0, _, _ => .error .escapeEnd
  | fuel + 1, taken, text =>
    match text with
    | [] => .error .escapeEnd
    | '\x7d' :: _ => .ok (taken.reverse, advance verbose text)
    | c :: _ =>
      if isHexDigit c then readBraceCode verbose fuel (c :: taken) (advance verbose text)
      else .error .escapeCode

/-- A fixed number of hexadecimal digits. -/
def readFixedCode (verbose : Bool) : Nat → List Char → List Char →
    Except Fault (List Char × List Char)
  | 0, taken, text => .ok (taken.reverse, text)
  | count + 1, taken, text =>
    match text with
    | [] => .error .escapeEnd
    | c :: _ =>
      if isHexDigit c then readFixedCode verbose count (c :: taken) (advance verbose text)
      else .error .escapeCode

/-- A character by code, from just after the letter that announces it. -/
def readCode (verbose : Bool) (digits : Nat) (text : List Char) :
    Except Fault (Literal × List Char) := do
  match text with
  | [] => throw .escapeEnd
  | '\x7b' :: _ =>
    let (code, rest) ← readBraceCode verbose text.length [] (advance verbose text)
    if code.isEmpty then throw .escapeCode
    return (⟨← charOfCode (ofHexDigits code), false⟩, rest)
  | _ =>
    let (code, rest) ← readFixedCode verbose digits [] text
    return (⟨← charOfCode (ofHexDigits code), digits = 2⟩, rest)

/-- The text up to the closing brace. The fuel is the text's length. -/
def readBraceName (verbose : Bool) : Nat → List Char → List Char →
    Except Fault (List Char × List Char)
  | 0, _, _ => .error .escapeEnd
  | fuel + 1, taken, text =>
    match text with
    | [] => .error .escapeEnd
    | '\x7d' :: rest => .ok (taken.reverse, rest)
    | c :: _ => readBraceName verbose fuel (c :: taken) (advance verbose text)

/-- Splits at the first occurrence of a separator. -/
def splitAt? (separator : List Char) : List Char → Option (List Char × List Char)
  | [] => none
  | c :: rest =>
    if separator.isPrefixOf (c :: rest) then some ([], (c :: rest).drop separator.length)
    else (splitAt? separator rest).map fun (before, after) => (c :: before, after)

/-- A property's name, with or without a value; `true` if the value is excluded. -/
def readQuery (name : List Char) : PropertyQuery × Bool :=
  let value (split : List Char × List Char) :=
    PropertyQuery.valued (String.ofList split.1) (String.ofList split.2)
  match splitAt? ['!', '='] name with
  | some split => (value split, true)
  | none =>
    match splitAt? [':'] name with
    | some split => (value split, false)
    | none =>
      match splitAt? ['='] name with
      | some split => (value split, false)
      | none => (.named (String.ofList name), false)

/-- What one unit of a pattern or a class can be. -/
inductive Primitive
  | literal (l : Literal)
  | assertion (a : Assertion)
  | dot
  | letter (kind : LetterClass) (negated : Bool)
  | property (query : PropertyQuery) (negated : Bool)

def Primitive.pattern : Primitive → Pattern
  | .literal l => .literal l
  | .assertion a => .assertion a
  | .dot => .dot
  | .letter kind negated => .letter kind negated
  | .property query negated => .property query negated

/-- As an item of a class, where there is no place for assertions. -/
def Primitive.item : Primitive → Except Fault ClassSet
  | .literal l => .ok (.literal l)
  | .letter kind negated => .ok (.letter kind negated)
  | .property query negated => .ok (.property query negated)
  | .assertion _ | .dot => .error .classEscape

/-- As an end of a range. -/
def Primitive.literalOnly : Primitive → Except Fault Literal
  | .literal l => .ok l
  | _ => .error .classRangeLiteral

/-- A property, from just after the letter that announces it. -/
def readProperty (verbose negated : Bool) (text : List Char) :
    Except Fault (Primitive × List Char) := do
  match text with
  | [] => throw .escapeEnd
  | '\x7b' :: _ =>
    let (name, rest) ← readBraceName verbose text.length [] (advance verbose text)
    let (query, excluded) := readQuery name
    return (.property query (negated != excluded), rest)
  | c :: _ =>
    if c = '\\' then throw .property
    return (.property (.named (String.singleton c)) negated, advance verbose text)

def isEdgeChar (c : Char) : Bool := c.isAlpha || c == '-'

/-- The name of a special word boundary. The fuel is the text's length. -/
def takeEdgeName (verbose : Bool) : Nat → List Char → List Char × List Char
  | 0, text => ([], text)
  | fuel + 1, text =>
    match text with
    | c :: _ =>
      if isEdgeChar c then
        let (name, rest) := takeEdgeName verbose fuel (advance verbose text)
        (c :: name, rest)
      else ([], text)
    | [] => ([], [])

/-- After a word boundary, a brace opens a special one unless it cannot begin a name. -/
def readEdge (verbose : Bool) (text : List Char) : Except Fault (WordEdge × List Char) := do
  match text with
  | '\x7b' :: _ =>
    match advance verbose text with
    | [] => throw .wordEdge
    | c :: after =>
      if !isEdgeChar c then return (.boundary, text)
      let (name, rest) := takeEdgeName verbose text.length (c :: after)
      match rest with
      | '\x7d' :: rest =>
        match String.ofList name with
        | "start" => return (.start, rest)
        | "end" => return (.finish, rest)
        | "start-half" => return (.startHalf, rest)
        | "end-half" => return (.finishHalf, rest)
        | _ => throw .wordEdge
      | _ => throw .wordEdge
  | _ => return (.boundary, text)

/-- An escape, from just after the backslash. -/
def readEscape (verbose : Bool) (text : List Char) :
    Except Fault (Primitive × List Char) := do
  let char (c : Char) (rest : List Char) : Except Fault (Primitive × List Char) :=
    .ok (.literal ⟨c, false⟩, rest)
  match text with
  | [] => throw .escapeEnd
  | c :: rest =>
    if c.isDigit then throw .reference
    else if isEscapable c then char c rest
    else match c with
      | 'x' => let (l, rest) ← readCode verbose 2 (advance verbose text); return (.literal l, rest)
      | 'u' => let (l, rest) ← readCode verbose 4 (advance verbose text); return (.literal l, rest)
      | 'U' => let (l, rest) ← readCode verbose 8 (advance verbose text); return (.literal l, rest)
      | 'p' => readProperty verbose false (advance verbose text)
      | 'P' => readProperty verbose true (advance verbose text)
      | 'd' => return (.letter .digit false, rest)
      | 's' => return (.letter .space false, rest)
      | 'w' => return (.letter .word false, rest)
      | 'D' => return (.letter .digit true, rest)
      | 'S' => return (.letter .space true, rest)
      | 'W' => return (.letter .word true, rest)
      | 'a' => char '\x07' rest
      | 'f' => char '\x0c' rest
      | 't' => char '\t' rest
      | 'n' => char '\n' rest
      | 'r' => char '\r' rest
      | 'v' => char '\x0b' rest
      | 'A' => return (.assertion .textStart, rest)
      | 'z' => return (.assertion .textEnd, rest)
      | 'B' => return (.assertion (.word .notBoundary), rest)
      | '<' => return (.assertion (.word .start), rest)
      | '>' => return (.assertion (.word .finish), rest)
      | 'b' =>
        let (edge, rest) ← readEdge verbose rest
        return (.assertion (.word edge), rest)
      | _ => throw .escape

def asciiClass? : String → Option AsciiClass
  | "alnum" => some .alnum
  | "alpha" => some .alpha
  | "ascii" => some .ascii
  | "blank" => some .blank
  | "cntrl" => some .cntrl
  | "digit" => some .digit
  | "graph" => some .graph
  | "lower" => some .lower
  | "print" => some .print
  | "punct" => some .punct
  | "space" => some .space
  | "upper" => some .upper
  | "word" => some .word
  | "xdigit" => some .xdigit
  | _ => none

/-- A class by name such as `[:^alpha:]`, from its opening bracket. -/
def readAsciiClass? (text : List Char) : Option (ClassSet × List Char) :=
  match text with
  | '[' :: ':' :: rest =>
    let (negated, rest) := match rest with
      | '^' :: rest => (true, rest)
      | rest => (false, rest)
    let (name, rest) := rest.span (· ≠ ':')
    match rest with
    | ':' :: ']' :: rest =>
      (asciiClass? (String.ofList name)).map fun kind => (.ascii kind negated, rest)
    | _ => none
  | _ => none

/-- One unit inside a class. -/
def readClassUnit (verbose : Bool) (text : List Char) :
    Except Fault (Primitive × List Char) :=
  match text with
  | [] => .error .classUnclosed
  | '\\' :: rest => readEscape verbose rest
  | c :: rest => .ok (.literal ⟨c, false⟩, rest)

/-- One unit, or a range of characters. A hyphen before the closing bracket or before another
hyphen makes no range. -/
def readClassItem (verbose : Bool) (text : List Char) :
    Except Fault (ClassSet × List Char) := do
  let (first, rest) ← readClassUnit verbose text
  let rest := skip verbose rest
  match rest with
  | [] => throw .classUnclosed
  | '-' :: after =>
    match skip verbose after with
    | ']' :: _ | '-' :: _ => return (← first.item, rest)
    | [] => throw .classUnclosed
    | after =>
      let (last, rest) ← readClassUnit verbose after
      let first ← first.literalOnly
      let last ← last.literalOnly
      if last.char < first.char then throw .classRange
      return (.range first last, rest)
  | _ => return (← first.item, rest)

/-- Items gathered in reverse become a union, unless there is only one. -/
def unionOf : List ClassSet → ClassSet
  | [] => .empty
  | [item] => item
  | items => .union items.reverse

/-- What is still open inside a bracketed class. -/
inductive ClassFrame
  | bracket (outer : List ClassSet) (negated : Bool)
  | operation (op : SetOp) (left : ClassSet)

/-- Applies a pending set operation to what stands on its right. -/
def closeOperation (right : ClassSet) : List ClassFrame → ClassSet × List ClassFrame
  | .operation op left :: frames => (.combine op left right, frames)
  | frames => (right, frames)

/-- Leading hyphens of a class stand for themselves. The fuel is the text's length. -/
def takeHyphens (verbose : Bool) : Nat → List ClassSet → List Char → List ClassSet × List Char
  | 0, items, text => (items, text)
  | fuel + 1, items, text =>
    match text with
    | '-' :: _ =>
      takeHyphens verbose fuel (.literal ⟨'-', false⟩ :: items) (advance verbose text)
    | _ => (items, text)

/-- An opening bracket: a caret negates, and then hyphens, or else a closing bracket, stand
for themselves. -/
def openClass (verbose : Bool) (text : List Char) :
    Except Fault (Bool × List ClassSet × List Char) := do
  let rest := advance verbose text
  let (negated, rest) := match rest with
    | '^' :: _ => (true, advance verbose rest)
    | _ => (false, rest)
  let (items, rest) := takeHyphens verbose rest.length [] rest
  match items, rest with
  | _, [] => throw .classUnclosed
  | [], ']' :: _ =>
    let rest := advance verbose rest
    if rest.isEmpty then throw .classUnclosed
    return (negated, [.literal ⟨']', false⟩], rest)
  | _, _ => return (negated, items, rest)

/-- Reads on inside a class, until its outermost bracket closes. The fuel is the text's
length. -/
def readClass (verbose : Bool) : Nat → List ClassFrame → List ClassSet → List Char →
    Except Fault (Pattern × List Char)
  | 0, _, _, _ => .error .classUnclosed
  | fuel + 1, frames, items, text => do
    let operation (op : SetOp) (rest : List Char) :=
      let (left, frames) := closeOperation (unionOf items) frames
      readClass verbose fuel (.operation op left :: frames) [] rest
    match skip verbose text with
    | [] => throw .classUnclosed
    | '[' :: rest =>
      match readAsciiClass? ('[' :: rest) with
      | some (set, rest) => readClass verbose fuel frames (set :: items) rest
      | none =>
        let (negated, inner, rest) ← openClass verbose ('[' :: rest)
        readClass verbose fuel (.bracket items negated :: frames) inner rest
    | ']' :: rest =>
      let (body, frames) := closeOperation (unionOf items) frames
      match frames with
      | [] | .operation .. :: _ => throw .classUnclosed
      | [.bracket _ negated] => return (.bracketed negated body, rest)
      | .bracket outer negated :: frames =>
        readClass verbose fuel frames (.bracketed negated body :: outer) rest
    | '&' :: '&' :: rest => operation .both rest
    | '-' :: '-' :: rest => operation .minus rest
    | '~' :: '~' :: rest => operation .either rest
    | text =>
      let (item, rest) ← readClassItem verbose text
      readClass verbose fuel frames (item :: items) rest

def flag? : Char → Option Flag
  | 'i' => some .ignoreCase
  | 'm' => some .multiLine
  | 's' => some .dotAll
  | 'U' => some .swapGreed
  | 'u' => some .unicode
  | 'R' => some .crlf
  | 'x' => some .verbose
  | _ => none

/-- Flags up to the colon or parenthesis that ends them; each may stand once, and so may the
hyphen, which must not come last. -/
def readFlags : (negating dangling : Bool) → FlagChange → List Char →
    Except Fault (FlagChange × List Char)
  | _, _, _, [] => .error .flagEnd
  | negating, dangling, change, c :: rest =>
    if c = ':' ∨ c = ')' then
      if dangling then .error .flagDangling else .ok (change, c :: rest)
    else if c = '-' then
      if negating then .error .flagDuplicate else readFlags true true change rest
    else
      match flag? c with
      | none => .error .flagUnknown
      | some flag =>
        if flag ∈ change.on ∨ flag ∈ change.off then .error .flagDuplicate
        else if negating then readFlags true false ⟨change.on, change.off ++ [flag]⟩ rest
        else readFlags false false ⟨change.on ++ [flag], change.off⟩ rest

/-- A group's name, up to and including the closing angle bracket. -/
def readGroupName (text : List Char) : Except Fault (String × List Char) :=
  let (name, rest) := text.span (· ≠ '>')
  match name with
  | [] => if rest.isEmpty then .error .groupNameEnd else .error .groupName
  | c :: more =>
    if !isNameStart c || !more.all isNameChar then .error .groupName
    else match rest with
      | [] => .error .groupNameEnd
      | _ :: rest => .ok (String.ofList name, rest)

/-- The branches and parts gathered at one level of grouping, in reverse. -/
structure Level where
  branches : List Pattern
  parts : List Pattern

def Level.fresh : Level := ⟨[], []⟩

def concatOf : List Pattern → Pattern
  | [] => .empty
  | [part] => part
  | parts => .concat parts.reverse

def Level.pattern (level : Level) : Pattern :=
  match level.branches with
  | [] => concatOf level.parts
  | branches => .alternation (branches.reverse ++ [concatOf level.parts])

/-- An open group: the level around it, its flags, and whether verbose mode held before. -/
structure GroupFrame where
  outer : Level
  change : Option FlagChange
  verbose : Bool

structure ReaderState where
  level : Level
  groups : List GroupFrame
  names : List String
  verbose : Bool

namespace ReaderState

def push (state : ReaderState) (part : Pattern) : ReaderState :=
  { state with level := { state.level with parts := part :: state.level.parts } }

/-- Applies a repetition to the last part; there has to be one, and no flag directive. -/
def repeatLast (state : ReaderState) (least : Nat) (most : Option Nat) :
    Except Fault ReaderState :=
  match state.level.parts with
  | [] | .empty :: _ | .flags _ :: _ => .error .repetitionMissing
  | part :: parts =>
    .ok { state with level := { state.level with parts := .repetition least most part :: parts } }

def canRepeat (state : ReaderState) : Bool :=
  match state.level.parts with
  | [] | .empty :: _ | .flags _ :: _ => false
  | _ => true

def openGroup (state : ReaderState) (change : Option FlagChange) : ReaderState :=
  { state with
    level := .fresh
    groups := ⟨state.level, change, state.verbose⟩ :: state.groups
    verbose := ((change.bind (·.state? .verbose)).getD state.verbose) }

def closeGroup (state : ReaderState) : Except Fault ReaderState :=
  match state.groups with
  | [] => .error .groupUnopened
  | frame :: groups =>
    .ok { state with
      level := { frame.outer with
        parts := .group frame.change state.level.pattern :: frame.outer.parts }
      groups := groups
      verbose := frame.verbose }

def addName (state : ReaderState) (name : String) : Except Fault ReaderState :=
  if name ∈ state.names then .error .groupNameDuplicate
  else .ok { state with names := name :: state.names }

end ReaderState

/-- An opening parenthesis and what belongs to it. -/
def readGroup (state : ReaderState) (text : List Char) :
    Except Fault (ReaderState × List Char) := do
  let named (rest : List Char) : Except Fault (ReaderState × List Char) := do
    let (name, rest) ← readGroupName rest
    return ((← state.addName name).openGroup none, rest)
  match advance state.verbose text with
  | '?' :: '=' :: _ | '?' :: '!' :: _ | '?' :: '<' :: '=' :: _ | '?' :: '<' :: '!' :: _ =>
    throw .lookAround
  | '?' :: 'P' :: '<' :: rest => named rest
  | '?' :: '<' :: rest => named rest
  | '?' :: rest =>
    if rest.isEmpty then throw .groupUnclosed
    let (change, rest) ← readFlags false false ⟨[], []⟩ rest
    match rest with
    | ')' :: rest =>
      if change.on.isEmpty && change.off.isEmpty then throw .repetitionMissing
      let state := state.push (.flags change)
      let verbose := (change.state? .verbose).getD state.verbose
      return ({ state with verbose := verbose }, rest)
    | rest => return (state.openGroup (some change), rest.drop 1)
  | rest => return (state.openGroup none, rest)

/-- One step of the reader, at a text that is not empty. -/
def readStep (state : ReaderState) (c : Char) (rest : List Char) :
    Except Fault (ReaderState × List Char) := do
  let lazy (rest : List Char) : List Char :=
    match rest with
    | '?' :: rest => rest
    | rest => rest
  match c with
  | '(' => readGroup state (c :: rest)
  | ')' => return (← state.closeGroup, rest)
  | '|' =>
    let level := state.level
    return ({ state with level := ⟨concatOf level.parts :: level.branches, []⟩ }, rest)
  | '[' =>
    let (negated, items, inner) ← openClass state.verbose (c :: rest)
    let (pattern, rest) ←
      readClass state.verbose (rest.length + 1) [.bracket [] negated] items inner
    return (state.push pattern, rest)
  | '?' => return (← state.repeatLast 0 (some 1), lazy rest)
  | '*' => return (← state.repeatLast 0 none, lazy rest)
  | '+' => return (← state.repeatLast 1 none, lazy rest)
  | '\x7b' =>
    if !state.canRepeat then throw .repetitionMissing
    let ((least, most), rest) ← readBounds state.verbose (advance state.verbose (c :: rest))
    if most.any (· < least) then throw .countInvalid
    return (← state.repeatLast least most, lazy (skip state.verbose rest))
  | '\\' =>
    let (primitive, rest) ← readEscape state.verbose rest
    return (state.push primitive.pattern, rest)
  | '.' => return (state.push .dot, rest)
  | '^' => return (state.push (.assertion .lineStart), rest)
  | '$' => return (state.push (.assertion .lineEnd), rest)
  | c => return (state.push (.literal ⟨c, false⟩), rest)

/-- Reads on to the end of the text. The fuel is the text's length. -/
def readParts : Nat → ReaderState → List Char → Except Fault ReaderState
  | 0, state, _ => .ok state
  | fuel + 1, state, text =>
    match skip state.verbose text with
    | [] => .ok state
    | c :: rest => do
      let (state, rest) ← readStep state c rest
      readParts fuel state rest

def maxDepth : Nat := 250

/-- The pattern a text spells. -/
def Pattern.read (text : List Char) : Except Fault Pattern := do
  let state ← readParts text.length ⟨.fresh, [], [], false⟩ text
  if !state.groups.isEmpty then throw .groupUnclosed
  let pattern := state.level.pattern
  if maxDepth < pattern.depth then throw .depth
  return pattern

end MatchTree.Regex
