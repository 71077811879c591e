import TransitFeed.Yaml.Tag

/-! # From text to tokens

Whether something is the key of a mapping is known only when the colon behind it is met. So the
place of the last possible key is remembered, and the tokens for the key and for the block that
starts with it are inserted there.
-/

namespace TransitFeed.Yaml

/-- Where a key may have started that has no indicator of its own. -/
structure PossibleKey where
  /-- Whether it has to be a key: in a block it stands in the column of the keys. -/
  required : Bool
  /-- How many tokens are before it. -/
  token : Nat
  line : Nat
  column : Nat
  index : Nat
  deriving Repr, DecidableEq

/-- A text of which some tokens are known. -/
structure Lexer where
  source : Source
  tokens : Array Token := #[]
  /-- The column of the innermost block, or -1. -/
  indent : Int := -1
  /-- The columns of the blocks around it. -/
  indents : List Int := []
  /-- The possible key of the current level. -/
  possible : Option PossibleKey := none
  /-- The possible keys of the levels around it, one for each open flow collection. -/
  outer : List (Option PossibleKey) := []
  /-- Whether a key without an indicator may start here. -/
  keyAllowed : Bool := true

namespace Lexer

def inFlow (l : Lexer) : Bool := !l.outer.isEmpty

def push (l : Lexer) (token : Token) : Lexer := { l with tokens := l.tokens.push token }

def take (l : Lexer) (count : Nat) (token : Token) : Lexer :=
  { l with source := l.source.drop count, tokens := l.tokens.push token }

/-- The blocks that stay open at a column, and a token for the end of each other one. -/
def close (column indent : Int) (tokens : Array Token) : List Int → Int × List Int × Array Token
  | [] => (indent, [], tokens)
  | next :: rest =>
    if column < indent then close column next (tokens.push .blockEnd) rest
    else (indent, next :: rest, tokens)

/-- Closes the blocks that are deeper than a column. -/
def unroll (l : Lexer) (column : Int) : Lexer :=
  if l.inFlow then l
  else
    let (indent, indents, tokens) := close column l.indent l.tokens l.indents
    { l with indent, indents, tokens }

/-- Opens a block at a column that is deeper than the current one. Its token is inserted after the
    first `position` tokens. -/
def roll (l : Lexer) (column : Int) (position : Nat) (token : Token) : Lexer :=
  if l.inFlow || column ≤ l.indent then l
  else
    { l with
      indents := l.indent :: l.indents
      indent := column
      tokens := l.tokens.extract 0 position ++ #[token] ++ l.tokens.extract position }

def rollHere (l : Lexer) (token : Token) : Lexer := l.roll l.source.column l.tokens.size token

/-- The possible key of this level is none. -/
def dropKey? (l : Lexer) : Option Lexer :=
  match l.possible with
  | some key => if key.required then none else some { l with possible := none }
  | none => some l

def saveKey? (l : Lexer) : Option Lexer :=
  match l.keyAllowed, l.source with
  | true, spot :: _ => do
    let l ← l.dropKey?
    let required := !l.inFlow && l.indent = spot.column
    some { l with possible := some ⟨required, l.tokens.size, spot.line, spot.column, spot.index⟩ }
  | _, _ => some l

/-- Whether a possible key has become none: keys stand on one line and have at most 1024
    characters. -/
def isStale (spot : Spot) (key : PossibleKey) : Bool :=
  key.line < spot.line || key.index + 1024 < spot.index

/-- The possible keys without those that have become none. -/
def dropStale? (l : Lexer) : Option Lexer :=
  match l.source with
  | [] => some l
  | spot :: _ =>
    let fresh? (key : Option PossibleKey) : Option (Option PossibleKey) :=
      match key with
      | some key =>
        if isStale spot key then if key.required then none else some none else some (some key)
      | none => some none
    do some { l with possible := ← fresh? l.possible, outer := ← l.outer.mapM fresh? }

/-- Skips blanks, comments and line breaks. Tabs are no indentation, so they are not skipped where a
    key may start. A byte order mark is skipped at the very start. -/
def skip (inFlow keyAllowed : Bool) : Source → Bool × Source
  | [] => (keyAllowed, [])
  | spot :: rest =>
    if spot.index = 0 && spot.char = '\uFEFF' then skip inFlow keyAllowed rest
    else if spot.char = ' ' || ((inFlow || !keyAllowed) && spot.char = '\t') then
      skip inFlow keyAllowed rest
    else if spot.char = '#' then comment inFlow keyAllowed rest
    else if spot.isBreak then skip inFlow (keyAllowed || !inFlow) rest
    else (keyAllowed, spot :: rest)
where
  /-- Skips the rest of a comment, and then goes on. -/
  comment (inFlow keyAllowed : Bool) : Source → Bool × Source
    | [] => (keyAllowed, [])
    | spot :: rest =>
      if spot.isEnd then (keyAllowed, spot :: rest)
      else if spot.isBreak then skip inFlow (keyAllowed || !inFlow) rest
      else comment inFlow keyAllowed rest

/-- The token of a scalar, and what comes after it. -/
def scalar (l : Lexer) (style : Style) (text : String) (rest : Source) : Lexer :=
  { l with source := rest, tokens := l.tokens.push (.scalar style text), keyAllowed := false }

/-- The indicator of a document, or a directive. -/
def documentToken? (l : Lexer) (token : Token) (rest : Source) : Option Lexer := do
  let l ← (l.unroll (-1)).dropKey?
  some { l with source := rest, tokens := l.tokens.push token, keyAllowed := false }

def openFlow? (l : Lexer) (token : Token) : Option Lexer := do
  let l ← l.saveKey?
  some { l.take 1 token with
    outer := l.possible :: l.outer, possible := none, keyAllowed := true }

def closeFlow? (l : Lexer) (token : Token) : Option Lexer := do
  let l ← l.dropKey?
  let l := { l.take 1 token with keyAllowed := false }
  match l.outer with
  | [] => some l
  | possible :: outer => some { l with possible, outer }

/-- A comma. -/
def flowEntry? (l : Lexer) : Option Lexer := do
  let l ← l.dropKey?
  some { l.take 1 .flowEntry with keyAllowed := true }

/-- A dash. -/
def blockEntry? (l : Lexer) : Option Lexer := do
  if !l.inFlow && !l.keyAllowed then none
  let l ← (l.rollHere .blockSequenceStart).dropKey?
  some { l.take 1 .blockEntry with keyAllowed := true }

/-- A question mark. -/
def key? (l : Lexer) : Option Lexer := do
  if !l.inFlow && !l.keyAllowed then none
  let l ← (l.rollHere .blockMappingStart).dropKey?
  some { l.take 1 .key with keyAllowed := !l.inFlow }

/-- A colon. -/
def value? (l : Lexer) : Option Lexer :=
  match l.possible with
  | some key =>
    let tokens := l.tokens.extract 0 key.token ++ #[.key] ++ l.tokens.extract key.token
    let l := { l with tokens, possible := none }
    let l := l.roll key.column key.token .blockMappingStart
    some { l.take 1 .value with keyAllowed := false }
  | none => do
    if !l.inFlow && !l.keyAllowed then none
    let l := l.rollHere .blockMappingStart
    some { l.take 1 .value with keyAllowed := !l.inFlow }

/-- An anchor, an alias or a tag, which may be the start of a key. -/
def property? (l : Lexer) (read? : Source → Option (Token × Source)) : Option Lexer := do
  let l ← l.saveKey?
  let (token, rest) ← read? l.source
  some { l with source := rest, tokens := l.tokens.push token, keyAllowed := false }

/-- A block scalar. -/
def block? (l : Lexer) (style : Style) : Option Lexer := do
  let l ← l.dropKey?
  let (text, rest) ← blockScalar? (style = .folded) l.indent (l.source.drop 1)
  some { l.scalar style text rest with keyAllowed := true }

/-- A quoted scalar. -/
def quoted? (l : Lexer) (style : Style) : Option Lexer := do
  let l ← l.saveKey?
  let inner := l.source.drop 1
  let (text, rest) ←
    if style = .singleQuoted then singleQuoted? {} inner else doubleQuoted? inner.length {} inner
  some (l.scalar style text rest)

/-- A plain scalar. A key may start on the line after it. -/
def plainScalar? (l : Lexer) : Option Lexer := do
  let l ← l.saveKey?
  let scan ← plain? l.inFlow (l.indent + 1) {} l.source
  some { l.scalar .plain scan.text scan.rest with keyAllowed := scan.broken }

def startsPlain (l : Lexer) : Bool :=
  let c := l.source.peek
  let next := l.source.peekAt 1
  let indicators := ['-', '?', ':', ',', '[', ']', '\x7b', '\x7d', '#', '&', '*', '!', '|', '>',
    '\'', '"', '%', '@', '\x60']
  (!isSpace c && !indicators.contains c) ||
    (c = '-' && !(next = ' ' || next = '\t')) ||
    (!l.inFlow && (c = '?' || c = ':') && !isSpace next)

/-- The next token, where blanks, comments and closed blocks have been dealt with. -/
def token? (l : Lexer) : Option Lexer :=
  let s := l.source
  let isAlone := isSpace (s.peekAt 1)
  if s.column = 0 && s.peek = '%' then do
    let (token, rest) ← directive? (s.drop 1)
    l.documentToken? token rest
  else if s.isMarker '-' then l.documentToken? .documentStart (s.drop 3)
  else if s.isMarker '.' then l.documentToken? .documentEnd (s.drop 3)
  else match s.peek with
    | '[' => l.openFlow? .flowSequenceStart
    | '\x7b' => l.openFlow? .flowMappingStart
    | ']' => l.closeFlow? .flowSequenceEnd
    | '\x7d' => l.closeFlow? .flowMappingEnd
    | ',' => l.flowEntry?
    | '*' => l.property? fun s =>
      (anchorName? (s.drop 1)).map fun (name, rest) => (.alias name, rest)
    | '&' => l.property? fun s =>
      (anchorName? (s.drop 1)).map fun (name, rest) => (.anchor name, rest)
    | '!' => l.property? (tag? l.inFlow)
    | '\'' => l.quoted? .singleQuoted
    | '"' => l.quoted? .doubleQuoted
    | c =>
      if c = '-' && isAlone then l.blockEntry?
      else if c = '?' && (l.inFlow || isAlone) then l.key?
      else if c = ':' && (l.inFlow || isAlone) then l.value?
      else if c = '|' && !l.inFlow then l.block? .literal
      else if c = '>' && !l.inFlow then l.block? .folded
      else if l.startsPlain then l.plainScalar?
      else none

/-- All tokens. Every step but the last takes at least one character, so `fuel` is their number. -/
def run? : Nat → Lexer → Option (List Token)
  | 0, _ => none
  | fuel + 1, l => do
    let (keyAllowed, source) := skip l.inFlow l.keyAllowed l.source
    let l ← { l with keyAllowed, source : Lexer }.dropStale?
    let l := l.unroll source.column
    if source.peek = endMark then
      let l ← (l.unroll (-1)).dropKey?
      some (l.push .streamEnd).tokens.toList
    else run? fuel (← l.token?)

end Lexer

def tokens? (text : List Char) : Option (List Token) := do
  let source ← Source.of? text
  Lexer.run? (source.length + 1) { source }

end TransitFeed.Yaml
