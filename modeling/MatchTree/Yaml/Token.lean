import MatchTree.Text.RangeTable

/-!
The tokens of YAML text.

Blocks are found by indentation: a deeper column opens one, a shallower column closes those
that it leaves. A mapping key is not announced; when a colon follows a node that could be a
key, the tokens that open the mapping and the key are put in front of that node after the
fact. `Scan` keeps the place of the last such node at each level of flow collections.
-/

set_option autoImplicit false
namespace MatchTree.Yaml

inductive Token
  | directive
  | documentStart
  | documentEnd
  | sequenceStart
  | mappingStart
  | blockEnd
  | flowSequenceStart
  | flowSequenceEnd
  | flowMappingStart
  | flowMappingEnd
  | entry
  | comma
  | key
  | value
  | anchor (name : String)
  | alias (name : String)
  | tag (name : String)
  | scalar (plain : Bool) (text : String)
  deriving DecidableEq, Repr, Inhabited

/-- A node that may turn out to be a key; `required` if its block demands one here. -/
structure PendingKey where
  required : Bool
  place : Nat
  line : Nat
  column : Nat
  offset : Nat
  deriving Repr

structure Scan where
  rest : List Char
  line : Nat
  column : Nat
  offset : Nat
  indent : Int
  outer : List Int
  keyAllowed : Bool
  pending : List (Option PendingKey)
  tokens : Array Token

def isSpaceOrTab (c : Char) : Bool := c == ' ' || c == '\t'

def isBreak (c : Char) : Bool :=
  c == '\n' || c == '\r' || c == '\u0085' || c == '\u2028' || c == '\u2029'

/-- White space, a line end, or the end of the text. -/
def isGap : Option Char → Bool
  | none => true
  | some c => isSpaceOrTab c || isBreak c

/-- Characters that a text may hold at all. -/
def isReadable (c : Char) : Bool :=
  let n := c.toNat
  n == 9 || n == 10 || n == 13 || (0x20 ≤ n && n ≤ 0x7E) || n == 0x85 ||
    (0xA0 ≤ n && n ≤ 0xD7FF) || (0xE000 ≤ n && n ≤ 0xFFFD && n != 0xFEFF) || 0x10000 ≤ n

namespace Scan

def inFlow (s : Scan) : Bool := 1 < s.pending.length

def peek (s : Scan) : Option Char := s.rest.head?

def peekAt (s : Scan) (i : Nat) : Option Char := s.rest[i]?

def skip (s : Scan) (count : Nat) : Scan :=
  { s with
    rest := s.rest.drop count
    column := s.column + count
    offset := s.offset + count }

/-- Takes a line end; gives the text it stands for. -/
def takeBreak (s : Scan) : List Char × Scan :=
  let next (count : Nat) : Scan :=
    { s with
      rest := s.rest.drop count
      line := s.line + 1
      column := 0
      offset := s.offset + count }
  match s.rest with
  | '\r' :: '\n' :: _ => (['\n'], next 2)
  | c :: _ => (if c = '\u2028' ∨ c = '\u2029' then [c] else ['\n'], next 1)
  | [] => ([], s)

def push (s : Scan) (token : Token) : Scan :=
  { s with tokens := s.tokens.push token }

def insertAt (s : Scan) (place : Nat) (token : Token) : Scan :=
  { s with tokens := s.tokens.extract 0 place ++ #[token] ++ s.tokens.extract place s.tokens.size }

/-- Three given characters and a gap, at the start of a line. -/
def atMark (s : Scan) (c : Char) : Bool :=
  s.column == 0 && s.rest.take 3 == [c, c, c] && isGap (s.peekAt 3)

def atDocumentMark (s : Scan) : Bool := s.atMark '-' || s.atMark '.'

/-- Skips spaces, comments and line ends. The fuel is the text's length. -/
def skipGap : Nat → Scan → Scan
  | 0, s => s
  | fuel + 1, s =>
    match s.peek with
    | none => s
    | some c =>
      if c = ' ' ∨ (c = '\t' ∧ (s.inFlow ∨ !s.keyAllowed)) then skipGap fuel (s.skip 1)
      else if c = '#' then
        let comment := s.rest.takeWhile fun c => !isBreak c
        skipGap fuel (s.skip comment.length)
      else if isBreak c then
        let s := s.takeBreak.2
        skipGap fuel (if s.inFlow then s else { s with keyAllowed := true })
      else s

/-- A key stands on one line, within 1024 characters of its colon. -/
def dropStaleKeys (s : Scan) : Option Scan := do
  let pending ← s.pending.mapM fun key? =>
    match key? with
    | none => some none
    | some key =>
      if key.line < s.line ∨ key.offset + 1024 < s.offset then
        if key.required then none else some none
      else some (some key)
  return { s with pending := pending }

def dropKey (s : Scan) : Option Scan :=
  match s.pending with
  | some key :: outer => if key.required then none else some { s with pending := none :: outer }
  | _ => some s

/-- Remembers the node that begins here as a possible key. -/
def saveKey (s : Scan) : Option Scan :=
  if s.keyAllowed then do
    let required := !s.inFlow && s.indent == s.column
    let key : PendingKey := ⟨required, s.tokens.size, s.line, s.column, s.offset⟩
    let s ← s.dropKey
    return { s with pending := some key :: s.pending.drop 1 }
  else some s

/-- Opens a block at a deeper column. -/
def openBlock (s : Scan) (column place : Nat) (token : Token) : Scan :=
  if s.inFlow || (column : Int) ≤ s.indent then s
  else { s.insertAt place token with outer := s.indent :: s.outer, indent := column }

/-- Closes the blocks that lie deeper than a column, the innermost first. -/
def closeFrom (column : Int) (tokens : Array Token) : Int → List Int → Array Token × Int × List Int
  | indent, [] => (tokens, indent, [])
  | indent, outer :: rest =>
    if column < indent then closeFrom column (tokens.push .blockEnd) outer rest
    else (tokens, indent, outer :: rest)

def closeBlocks (s : Scan) (column : Int) : Scan :=
  if s.inFlow then s
  else
    let (tokens, indent, outer) := closeFrom column s.tokens s.indent s.outer
    { s with tokens := tokens, indent := indent, outer := outer }

/-- A token of so many characters that cannot stand inside a key. -/
def indicator (s : Scan) (length : Nat) (token : Token) (keyAllowed : Bool) : Option Scan := do
  let s ← s.dropKey
  return ({ s with keyAllowed := keyAllowed }.skip length).push token

def documentToken (s : Scan) (token : Token) : Option Scan :=
  (s.closeBlocks (-1)).indicator 3 token false

def openFlow (s : Scan) (token : Token) : Option Scan := do
  let s ← s.saveKey
  return ({ s with pending := none :: s.pending, keyAllowed := true }.skip 1).push token

def closeFlow (s : Scan) (token : Token) : Option Scan := do
  let s ← s.dropKey
  let pending := if s.inFlow then s.pending.drop 1 else s.pending
  return ({ s with pending := pending, keyAllowed := false }.skip 1).push token

def entry (s : Scan) : Option Scan :=
  if s.inFlow then s.indicator 1 .entry true
  else if !s.keyAllowed then none
  else (s.openBlock s.column s.tokens.size .sequenceStart).indicator 1 .entry true

def explicitKey (s : Scan) : Option Scan :=
  if s.inFlow then s.indicator 1 .key false
  else if !s.keyAllowed then none
  else (s.openBlock s.column s.tokens.size .mappingStart).indicator 1 .key true

/-- A colon: it makes the remembered node a key. -/
def value (s : Scan) : Option Scan :=
  match s.pending with
  | some key :: outer =>
    let s := (s.insertAt key.place .key).openBlock key.column key.place .mappingStart
    some (({ s with pending := none :: outer, keyAllowed := false }.skip 1).push .value)
  | _ =>
    if s.inFlow then some (({ s with keyAllowed := false }.skip 1).push .value)
    else if !s.keyAllowed then none
    else
      let s := s.openBlock s.column s.tokens.size .mappingStart
      some (({ s with keyAllowed := true }.skip 1).push .value)

def isNameChar (c : Char) : Bool := c.isAlphanum || c == '-' || c == '_'

/-- The name of an anchor or an alias, after its indicator. -/
def name (s : Scan) (token : String → Token) : Option Scan := do
  let s ← s.saveKey
  let s := { s with keyAllowed := false }.skip 1
  let name := s.rest.takeWhile isNameChar
  let s := s.skip name.length
  let ended := isGap s.peek || s.peek.any fun c => "?:,]\x7d%@\x60".toList.contains c
  if name.isEmpty || !ended then none else some (s.push (token (String.ofList name)))

def isTagChar (c : Char) : Bool := isNameChar c || ";/?:@&=+$.!~*'()%".toList.contains c

/-- A tag: in angle brackets, or after an exclamation mark or two. Two of them stand for the
tags of the language itself, and others that end a name have to be declared. -/
def tag (s : Scan) : Option Scan := do
  let s ← s.saveKey
  let s := { s with keyAllowed := false }
  let (full, length) ← match s.rest with
    | '!' :: '<' :: rest =>
      let name := rest.takeWhile fun c => isTagChar c || ",[]".toList.contains c
      if name.isEmpty || rest[name.length]? != some '>' then none
      else some (name, name.length + 3)
    | '!' :: '!' :: rest =>
      let name := rest.takeWhile isTagChar
      if name.isEmpty then none else some ("tag:yaml.org,2002:".toList ++ name, name.length + 2)
    | '!' :: rest =>
      let name := rest.takeWhile isTagChar
      let hasHandle := (name.dropWhile isNameChar).head? == some '!'
      if hasHandle && !s.tokens.contains .directive then none
      else some ('!' :: name, name.length + 1)
    | _ => none
  let s := s.skip length
  if isGap s.peek || (s.inFlow && s.peek == some ',') then
    return s.push (.tag (String.ofList full))
  else none

/-- Blanks and line ends between two parts of a scalar: the blanks, the first line end, and
those that follow it. -/
structure Fold where
  blanks : List Char
  first : Option (List Char)
  later : List Char

/-- One line end becomes a space, more of them one less; blanks on one line stay. -/
def Fold.chars (fold : Fold) : List Char :=
  match fold.first with
  | none => fold.blanks
  | some ['\n'] => if fold.later.isEmpty then [' '] else fold.later
  | some first => first ++ fold.later

/-- Takes blanks and line ends. In a plain scalar of a block, no tab may stand in the
indentation. The fuel is the text's length. -/
def takeFold (noTabBelow : Option Nat) : Nat → Fold → Scan → Option (Fold × Scan)
  | 0, fold, s => some (fold, s)
  | fuel + 1, fold, s =>
    match s.peek with
    | none => some (fold, s)
    | some c =>
      if isSpaceOrTab c then
        if fold.first.isSome then
          if c = '\t' ∧ noTabBelow.any (s.column < ·) then none
          else takeFold noTabBelow fuel fold (s.skip 1)
        else takeFold noTabBelow fuel { fold with blanks := fold.blanks ++ [c] } (s.skip 1)
      else if isBreak c then
        let (text, s) := s.takeBreak
        match fold.first with
        | none => takeFold noTabBelow fuel ⟨[], some text, []⟩ s
        | some _ => takeFold noTabBelow fuel { fold with later := fold.later ++ text } s
      else some (fold, s)

def isFlowIndicator (c : Char) : Bool := ",[]\x7b\x7d".toList.contains c

/-- The characters of one line of a plain scalar; a colon ends it before a gap, and in flow
collections the indicators do. -/
def plainRun (inFlow : Bool) : List Char → Option (List Char)
  | [] => some []
  | c :: rest =>
    if isGap (some c) then some []
    else if inFlow && c == ':' && rest.head?.any (fun d => d == '?' || isFlowIndicator d) then none
    else if (c == ':' && isGap rest.head?) || (inFlow && isFlowIndicator c) then some []
    else (plainRun inFlow rest).map (c :: ·)

/-- The lines of a plain scalar. `before` is what stands between the text so far and the next
line. The fuel is the text's length. -/
def plainLines (indent : Int) : Nat → List Char → Fold → Scan → Option (List Char × Fold × Scan)
  | 0, text, before, s => some (text, before, s)
  | fuel + 1, text, before, s =>
    if s.atDocumentMark || s.peek == some '#' then some (text, before, s)
    else do
      let run ← plainRun s.inFlow s.rest
      let text := if run.isEmpty then text else text ++ before.chars ++ run
      let before := if run.isEmpty then before else ⟨[], none, []⟩
      let s := s.skip run.length
      match s.peek with
      | none => return (text, before, s)
      | some c =>
        if !isGap (some c) then return (text, before, s)
        else
          let (before, s) ← takeFold (some indent.toNat) s.rest.length before s
          if !s.inFlow && (s.column : Int) < indent then return (text, before, s)
          else plainLines indent fuel text before s

def plain (s : Scan) : Option Scan := do
  let s ← s.saveKey
  let s := { s with keyAllowed := false }
  let (text, before, s) ← plainLines (s.indent + 1) s.rest.length [] ⟨[], none, []⟩ s
  let s := if before.first.isSome then { s with keyAllowed := true } else s
  return s.push (.scalar true (String.ofList text))

def codeChar? (digits : List Char) : Option Char :=
  let n := ofHexDigits digits
  if digits.all isHexDigit && n.isValidChar then some (Char.ofNat n) else none

/-- The character of an escape, and how many characters the escape takes after the
backslash. -/
def escape? (text : List Char) : Option (Char × Nat) :=
  let code (length : Nat) : Option (Char × Nat) :=
    let digits := (text.drop 1).take length
    if digits.length = length then (codeChar? digits).map fun c => (c, length + 1) else none
  match text.head? with
  | none => none
  | some c =>
    let plain : List (Char × Char) := [('0', '\x00'), ('a', '\x07'), ('b', '\x08'), ('t', '\t'),
      ('\t', '\t'), ('n', '\n'), ('v', '\x0b'), ('f', '\x0c'), ('r', '\r'), ('e', '\x1b'),
      (' ', ' '), ('"', '"'), ('/', '/'), ('\\', '\\'), ('N', '\u0085'), ('_', '\u00a0'),
      ('L', '\u2028'), ('P', '\u2029')]
    match plain.lookup c with
    | some d => some (d, 1)
    | none =>
      if c = 'x' then code 2 else if c = 'u' then code 4 else if c = 'U' then code 8 else none

/-- Takes the characters of a quoted scalar up to a gap or the closing quote. An escaped line
end begins a fold of its own. The fuel is the text's length. -/
def quotedRun (quote : Char) : Nat → List Char → Scan → Option (List Char × Fold × Scan)
  | 0, text, s => some (text, ⟨[], none, []⟩, s)
  | fuel + 1, text, s =>
    match s.peek with
    | none => some (text, ⟨[], none, []⟩, s)
    | some c =>
      if isGap (some c) then some (text, ⟨[], none, []⟩, s)
      else if quote = '\'' ∧ c = '\'' ∧ s.peekAt 1 = some '\'' then
        quotedRun quote fuel (text ++ ['\'']) (s.skip 2)
      else if c = quote then some (text, ⟨[], none, []⟩, s)
      else if quote = '"' ∧ c = '\\' then
        if (s.peekAt 1).any isBreak then
          some (text, ⟨[], some [], []⟩, (s.skip 1).takeBreak.2)
        else do
          let (d, length) ← escape? (s.rest.drop 1)
          quotedRun quote fuel (text ++ [d]) (s.skip (length + 1))
      else quotedRun quote fuel (text ++ [c]) (s.skip 1)

/-- The rest of a quoted scalar. The fuel is the text's length. -/
def quotedLines (quote : Char) : Nat → List Char → Scan → Option (List Char × Scan)
  | 0, _, _ => none
  | fuel + 1, text, s =>
    if s.atDocumentMark || s.peek.isNone then none
    else do
      let (text, fold, s) ← quotedRun quote s.rest.length text s
      if s.peek == some quote && fold.first.isNone then return (text, s.skip 1)
      else
        let (fold, s) ← takeFold none s.rest.length fold s
        quotedLines quote fuel (text ++ fold.chars) s

def quoted (s : Scan) (quote : Char) : Option Scan := do
  let s ← s.saveKey
  let s := { s with keyAllowed := false }.skip 1
  let (text, s) ← quotedLines quote (s.rest.length + 1) [] s
  return s.push (.scalar false (String.ofList text))

/-- What happens to the line ends after a block scalar. -/
inductive Chomping
  | clip
  | strip
  | keep
  deriving DecidableEq

/-- Skips the indentation of the lines of a block scalar and gathers empty lines; without a
known indentation, finds the deepest. The fuel is the text's length. -/
def blockBreaks (indent : Nat) : Nat → (deepest : Nat) → List Char → Scan →
    Option (Nat × List Char × Scan)
  | 0, deepest, breaks, s => some (deepest, breaks, s)
  | fuel + 1, deepest, breaks, s =>
    let spaces := s.rest.takeWhile (· == ' ')
    let count := if indent = 0 then spaces.length else min spaces.length (indent - s.column)
    let s := s.skip count
    let deepest := max deepest s.column
    if (indent = 0 ∨ s.column < indent) ∧ s.peek = some '\t' then none
    else if s.peek.any isBreak then
      let (text, s) := s.takeBreak
      blockBreaks indent fuel deepest (breaks ++ text) s
    else some (deepest, breaks, s)

/-- Empty lines at the front of a block scalar settle its indentation. -/
def blockStart (parent : Int) (indent : Nat) (s : Scan) : Option (Nat × List Char × Scan) := do
  let (deepest, breaks, s) ← blockBreaks indent (s.rest.length + 1) 0 [] s
  if indent = 0 then return (max deepest (max (parent + 1).toNat 1), breaks, s)
  else return (indent, breaks, s)

/-- The lines of a block scalar. `last` is the line end of the line before, `empty` the empty
lines since. A folded line end becomes a space unless a line beside it begins with a blank.
The fuel is the text's length. -/
def blockLines (literal : Bool) (indent : Nat) : Nat → List Char → (last empty : List Char) →
    (afterBlank : Bool) → Scan → Option (List Char × List Char × List Char × Scan)
  | 0, text, last, empty, _, s => some (text, last, empty, s)
  | fuel + 1, text, last, empty, afterBlank, s =>
    if s.column ≠ indent ∨ s.peek.isNone then some (text, last, empty, s)
    else do
      let blank := s.peek.any isSpaceOrTab
      let joint :=
        if !literal && last == ['\n'] && !afterBlank && !blank then
          (if empty.isEmpty then [' '] else empty)
        else last ++ empty
      let run := s.rest.takeWhile fun c => !isBreak c
      let text := text ++ joint ++ run
      let (last, s) := (s.skip run.length).takeBreak
      let (_, empty, s) ← blockBreaks indent (s.rest.length + 1) 0 [] s
      blockLines literal indent fuel text last empty blank s

/-- The signs after the indicator of a block scalar: how to treat its end, and how deep it is
indented. -/
def blockHeader (text : List Char) : Option ((Chomping × Option Nat) × List Char) :=
  let chomping? (c : Char) : Option Chomping :=
    if c = '+' then some .keep else if c = '-' then some .strip else none
  let digit? (c : Char) : Option Nat := if c.isDigit then some (c.toNat - '0'.toNat) else none
  match text with
  | [] => some ((.clip, none), [])
  | c :: rest =>
    match chomping? c, digit? c with
    | some chomping, _ =>
      match rest.head?.bind digit? with
      | some 0 => none
      | some n => some ((chomping, some n), rest.drop 1)
      | none => some ((chomping, none), rest)
    | none, some 0 => none
    | none, some n =>
      match rest.head?.bind chomping? with
      | some chomping => some ((chomping, some n), rest.drop 1)
      | none => some ((.clip, some n), rest)
    | none, none => some ((.clip, none), c :: rest)

def block (s : Scan) (literal : Bool) : Option Scan := do
  let s ← s.dropKey
  let s := { s with keyAllowed := true }.skip 1
  let ((chomping, increment), after) ← blockHeader s.rest
  let s := s.skip (s.rest.length - after.length)
  let s := s.skip (s.rest.takeWhile isSpaceOrTab).length
  let s := if s.peek = some '#' then
      s.skip (s.rest.takeWhile fun c => !isBreak c).length
    else s
  if s.peek.any fun c => !isBreak c then none
  else
    let s := s.takeBreak.2
    let indent := match increment with
      | some n => if 0 ≤ s.indent then s.indent.toNat + n else n
      | none => 0
    let (indent, breaks, s) ← blockStart s.indent indent s
    let (text, last, empty, s) ←
      blockLines literal indent s.rest.length [] [] breaks false s
    let ending := match chomping with
      | .strip => []
      | .clip => last
      | .keep => last ++ empty
    return s.push (.scalar false (String.ofList (text ++ ending)))

/-- Whether the rest of a line holds nothing but a comment. -/
def isLineRest (text : List Char) : Bool :=
  (text.dropWhile isSpaceOrTab).head?.all (· == '#')

/-- A directive takes its line. It gives the version, 1.1 or 1.2, or declares tags. -/
def directive (s : Scan) : Option Scan := do
  let s ← (s.closeBlocks (-1)).dropKey
  let line := s.rest.takeWhile fun c => !isBreak c
  let version := ((line.drop 5).dropWhile isSpaceOrTab)
  let known :=
    ("%YAML ".toList.isPrefixOf line && ["1.1".toList, "1.2".toList].contains (version.take 3) &&
      isGap version[3]? && isLineRest (version.drop 3)) ||
    "%TAG ".toList.isPrefixOf line
  if known then return ({ s with keyAllowed := false }.skip line.length).push .directive
  else none

/-- Whether a plain scalar can begin here. A tab in the indentation is no beginning. -/
def startsPlain (s : Scan) (c : Char) : Bool :=
  !(isGap (some c) || "-?:,[]\x7b\x7d#&*!|>'\"%@\x60".toList.contains c) ||
    (c == '-' && !(s.peekAt 1).any isSpaceOrTab) ||
    (!s.inFlow && (c == '?' || c == ':') && !isGap (s.peekAt 1))

/-- Takes the token at a character that is no gap. -/
def token (s : Scan) (c : Char) : Option Scan :=
  let beforeGap := isGap (s.peekAt 1)
  if s.column = 0 ∧ c = '%' then s.directive
  else if s.atMark '-' then s.documentToken .documentStart
  else if s.atMark '.' then s.documentToken .documentEnd
  else if c = '[' then s.openFlow .flowSequenceStart
  else if c = '\x7b' then s.openFlow .flowMappingStart
  else if c = ']' then s.closeFlow .flowSequenceEnd
  else if c = '\x7d' then s.closeFlow .flowMappingEnd
  else if c = ',' then s.indicator 1 .comma true
  else if c = '-' ∧ beforeGap then s.entry
  else if c = '?' ∧ (s.inFlow ∨ beforeGap) then s.explicitKey
  else if c = ':' ∧ (s.inFlow ∨ beforeGap) then s.value
  else if c = '*' then s.name .alias
  else if c = '&' then s.name .anchor
  else if c = '!' then s.tag
  else if c = '|' ∧ !s.inFlow then s.block true
  else if c = '>' ∧ !s.inFlow then s.block false
  else if c = '\'' ∨ c = '"' then s.quoted c
  else if s.startsPlain c then s.plain
  else none

/-- The end of the text closes every block. -/
def finish (s : Scan) : Option (Array Token) := do
  let s ← { s with column := 0 }.closeBlocks (-1) |>.dropKey
  return s.tokens

/-- Takes tokens to the end of the text. Every token takes a character, so the fuel, the
text's length, is enough. -/
def run : Nat → Scan → Option (Array Token)
  | 0, s => s.finish
  | fuel + 1, s => do
    let s := skipGap s.rest.length s
    let s ← s.dropStaleKeys
    let s := s.closeBlocks s.column
    match s.peek with
    | none => s.finish
    | some c => run fuel (← s.token c)

def start (text : List Char) : Scan where
  rest := text
  line := 0
  column := 0
  offset := 0
  indent := -1
  outer := []
  keyAllowed := true
  pending := [none]
  tokens := #[]

end Scan

/-- The tokens of a text; a mark of byte order at its front does not count. -/
def tokens? (text : List Char) : Option (Array Token) :=
  let text := if text.head? = some '\ufeff' then text.drop 1 else text
  if text.all isReadable then Scan.run (text.length + 1) (.start text) else none

end MatchTree.Yaml
