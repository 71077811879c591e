import TransitFeed.Yaml.Source

/-! # Scalars

A scalar may go over several lines. In plain and quoted scalars a single line break is read as a
space and blanks at the ends of lines do not count; of several line breaks the first one is dropped.
-/

namespace TransitFeed.Yaml

/-- A text that is being read, last character first, and the blanks and line breaks after it of
    which it is not yet known whether they belong to it. -/
structure Folding where
  text : List Char := []
  /-- The blanks since the last other character, if there is no line break among them. -/
  blanks : List Char := []
  /-- Whether a line has ended since the last other character. -/
  broken : Bool := false
  /-- The first line break. -/
  firstBreak : Option Char := none
  /-- All other line breaks. -/
  breaks : List Char := []
  deriving Repr, DecidableEq

namespace Folding

/-- Whether there are blanks or line breaks to decide on. -/
def isPending (f : Folding) : Bool := f.broken || !f.blanks.isEmpty

def settle (f : Folding) : Folding :=
  if f.broken then
    let pending :=
      match f.firstBreak with
      | some '\n' => if f.breaks.isEmpty then [' '] else f.breaks
      | some c => f.breaks ++ [c]
      | none => f.breaks
    { text := pending ++ f.text }
  else { text := f.blanks ++ f.text }

/-- One more character that belongs to the text. -/
def add (f : Folding) (c : Char) : Folding :=
  let f := f.settle
  { f with text := c :: f.text }

def addBlank (f : Folding) (c : Char) : Folding :=
  if f.broken then f else { f with blanks := c :: f.blanks }

def addBreak (f : Folding) (c : Char) : Folding :=
  if f.broken then { f with breaks := c :: f.breaks }
  else { f with blanks := [], broken := true, firstBreak := some c }

/-- A line break that does not count. -/
def skipBreak (f : Folding) : Folding := { f.settle with broken := true }

def result (f : Folding) : String := String.ofList f.text.reverse

end Folding

/-- The characters that stand behind a backslash for others. -/
def escaped? : Char → Option Char
  | '0' => some '\x00'
  | 'a' => some '\x07'
  | 'b' => some '\x08'
  | 't' | '\t' => some '\t'
  | 'n' => some '\n'
  | 'v' => some '\x0b'
  | 'f' => some '\x0c'
  | 'r' => some '\r'
  | 'e' => some '\x1b'
  | ' ' => some ' '
  | '"' => some '"'
  | '/' => some '/'
  | '\\' => some '\\'
  | 'N' => some '\u0085'
  | '_' => some '\u00A0'
  | 'L' => some '\u2028'
  | 'P' => some '\u2029'
  | _ => none

/-- How many hexadecimal digits follow a backslash and a letter. -/
def codeLength? : Char → Option Nat
  | 'x' => some 2
  | 'u' => some 4
  | 'U' => some 8
  | _ => none

def hexValue? (c : Char) : Option Nat :=
  let n := c.toNat
  if 48 ≤ n ∧ n ≤ 57 then some (n - 48)
  else if 65 ≤ n ∧ n ≤ 70 then some (n - 55)
  else if 97 ≤ n ∧ n ≤ 102 then some (n - 87)
  else none

/-- The value of so many hexadecimal digits, and what comes after them. -/
def hexCode? : Nat → Nat → Source → Option (Nat × Source)
  | 0, total, s => some (total, s)
  | n + 1, total, spot :: rest => do hexCode? n (total * 16 + (← hexValue? spot.char)) rest
  | _ + 1, _, [] => none

/-- The character of an escape sequence after its backslash, and what comes after it. -/
def escape? : Source → Option (Char × Source)
  | [] => none
  | spot :: rest =>
    match codeLength? spot.char with
    | none => (escaped? spot.char).map fun c => (c, rest)
    | some n => do
      let (code, rest) ← hexCode? n 0 rest
      if code.isValidChar then some (Char.ofNat code, rest) else none

/-- A scalar between single quotation marks, after the first one. Two of them stand for one. -/
def singleQuoted? (f : Folding) : Source → Option (String × Source)
  | [] => none
  | spot :: rest =>
    if spot.isEnd || Source.isDocumentMarker (spot :: rest) then none
    else if spot.isBlank then singleQuoted? (f.addBlank spot.char) rest
    else if spot.isBreak then singleQuoted? (f.addBreak spot.char) rest
    else if spot.char = '\'' then
      match rest with
      | next :: rest =>
        if next.char = '\'' then singleQuoted? (f.add '\'') rest
        else some (f.settle.result, next :: rest)
      | [] => none
    else singleQuoted? (f.add spot.char) rest

/-- A scalar between double quotation marks, after the first one. A backslash at the end of a line
    joins it to the next one. Every step takes at least one character, so `fuel` is their number. -/
def doubleQuoted? (fuel : Nat) (f : Folding) (s : Source) : Option (String × Source) :=
  match fuel, s with
  | 0, _ | _, [] => none
  | fuel + 1, spot :: rest =>
    if spot.isEnd || Source.isDocumentMarker (spot :: rest) then none
    else if spot.isBlank then doubleQuoted? fuel (f.addBlank spot.char) rest
    else if spot.isBreak then doubleQuoted? fuel (f.addBreak spot.char) rest
    else if spot.char = '"' then some (f.settle.result, rest)
    else if spot.char = '\\' then
      if isBreak (Source.peek rest) then doubleQuoted? fuel f.skipBreak (rest.drop 1)
      else do
        let (c, rest) ← escape? rest
        doubleQuoted? fuel (f.add c) rest
    else doubleQuoted? fuel (f.add spot.char) rest

/-- Characters that end a plain scalar in a flow collection. -/
def isFlowIndicator (c : Char) : Bool := [',', '[', ']', '\x7b', '\x7d'].contains c

/-- A plain scalar that is being read. -/
structure PlainScan where
  text : String
  /-- Whether a line has ended after the scalar. -/
  broken : Bool
  rest : Source

/-- A plain scalar. Outside flow collections its lines start at column `indent` or later. -/
def plain? (inFlow : Bool) (indent : Int) (f : Folding) : Source → Option PlainScan
  | [] => none
  | spot :: rest =>
    let stop : Option PlainScan := some ⟨f.result, f.broken, spot :: rest⟩
    if spot.isEnd then stop
    else if spot.isBlank then
      if f.broken && (spot.column : Int) < indent && spot.char = '\t' then none
      else plain? inFlow indent (f.addBlank spot.char) rest
    else if spot.isBreak then plain? inFlow indent (f.addBreak spot.char) rest
    else
      let next := Source.peek rest
      if f.isPending && !inFlow && (spot.column : Int) < indent then stop
      else if Source.isDocumentMarker (spot :: rest) then stop
      else if f.isPending && spot.char = '#' then stop
      else if inFlow && spot.char = ':' && (isFlowIndicator next || next = '?') then none
      else if spot.char = ':' && isSpace next then stop
      else if inFlow && isFlowIndicator spot.char then stop
      else plain? inFlow indent (f.add spot.char) rest

/-- What becomes of the line breaks at the end of a block. -/
inductive Chomping where
  /-- The first one is kept. -/
  | clip
  /-- None is kept. -/
  | strip
  /-- All are kept. -/
  | keep
  deriving Repr, DecidableEq

/-- What stands behind the indicator of a block scalar. -/
structure BlockHeader where
  chomping : Chomping := .clip
  /-- How much deeper than its surroundings the block is, if that is said. -/
  increment : Option Nat := none

/-- The chomping indicator and what comes after it. -/
def chomping? (s : Source) : Option (Chomping × Source) :=
  match s.peek with
  | '+' => some (.keep, s.drop 1)
  | '-' => some (.strip, s.drop 1)
  | _ => none

/-- The indentation indicator and what comes after it; zero is refused. -/
def increment? (s : Source) : Option (Option Nat × Source) :=
  if s.peek.isDigit then
    if s.peek = '0' then none else some (some (s.peek.toNat - 48), s.drop 1)
  else some (none, s)

/-- The two indicators of a block, in any order. -/
def blockHeader? (s : Source) : Option (BlockHeader × Source) :=
  match chomping? s with
  | some (chomping, s) => do
    let (increment, s) ← increment? s
    some (⟨chomping, increment⟩, s)
  | none => do
    let (increment, s) ← increment? s
    match increment, chomping? s with
    | some _, some (chomping, s) => some (⟨chomping, increment⟩, s)
    | _, _ => some (⟨.clip, increment⟩, s)

/-- The indentation and line breaks in front of a line: the deepest column met, the breaks, last one
    first, and the rest. While the indentation of the block is not known, all spaces belong to
    it. -/
def blockBreaks? (indent : Option Nat) (deepest : Nat) (breaks : List Char) :
    Source → Option (Nat × List Char × Source)
  | [] => none
  | spot :: rest =>
    let isOpen :=
      match indent with
      | none => true
      | some n => spot.column < n
    let deepest := max deepest spot.column
    if isOpen && spot.char = ' ' then blockBreaks? indent deepest breaks rest
    else if isOpen && spot.char = '\t' then none
    else if spot.isBreak then blockBreaks? indent deepest (spot.char :: breaks) rest
    else some (deepest, breaks, spot :: rest)

/-- A block that is being read. -/
structure BlockScan where
  /-- Last character first. -/
  text : List Char := []
  /-- The line break of the last line. -/
  lineBreak : List Char := []
  /-- The line breaks after it. -/
  breaks : List Char := []
  /-- Whether the last line starts with a blank. -/
  startsBlank : Bool := false
  rest : Source

namespace BlockScan

/-- What stands between the last line and the next one, which starts with `next`. Between two lines
    of a folded block that do not start with blanks, a single break is a space. -/
def between (isFolded : Bool) (b : BlockScan) (next : Spot) : List Char :=
  if isFolded && b.lineBreak = ['\n'] && !b.startsBlank && !next.isBlank then
    if b.breaks.isEmpty then [' '] else b.breaks
  else b.breaks ++ b.lineBreak

/-- The lines at the column of the block. Every line takes at least one character, so `fuel` is
    their number. -/
def lines? (isFolded : Bool) (indent : Nat) : Nat → BlockScan → Option BlockScan
  | 0, b => some b
  | fuel + 1, b =>
    match b.rest with
    | [] => some b
    | spot :: _ =>
      if spot.isEnd || spot.column ≠ indent then some b
      else do
        let (line, rest) := b.rest.span fun s => !s.isBreak && !s.isEnd
        let (lineBreak, rest) :=
          match rest with
          | s :: after => if s.isBreak then ([s.char], after) else ([], rest)
          | [] => ([], rest)
        let (_, breaks, rest) ← blockBreaks? (some indent) 0 [] rest
        lines? isFolded indent fuel {
          text := (line.map (·.char)).reverse ++ b.between isFolded spot ++ b.text
          lineBreak, breaks, rest
          startsBlank := spot.isBlank }

def result (chomping : Chomping) (b : BlockScan) : String :=
  let tail :=
    match chomping with
    | .strip => []
    | .clip => b.lineBreak
    | .keep => b.breaks ++ b.lineBreak
  String.ofList (tail ++ b.text).reverse

end BlockScan

/-- A block scalar after its indicator. `outer` is the column of the collection around it, or -1. -/
def blockScalar? (isFolded : Bool) (outer : Int) (s : Source) : Option (String × Source) := do
  let (header, s) ← blockHeader? s
  let s ← s.endLine?
  let indent := header.increment.map fun n => if 0 ≤ outer then outer.toNat + n else n
  let (deepest, breaks, rest) ← blockBreaks? indent 0 [] s
  let indent := indent.getD (max deepest (max (outer + 1).toNat 1))
  let block ← BlockScan.lines? isFolded indent s.length { breaks, rest }
  some (block.result header.chomping, block.rest)

end TransitFeed.Yaml
