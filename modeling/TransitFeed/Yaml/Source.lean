/-! # Characters and their places

Indentation is structure in YAML, so every character comes with its line and its column. A line
break may be written in several ways and is one character here. The end of the text is a character
of its own, which no text contains.
-/

namespace TransitFeed.Yaml

/-- A character and where it stands. -/
structure Spot where
  char : Char
  line : Nat
  column : Nat
  /-- How many characters are before it. -/
  index : Nat
  deriving Repr, DecidableEq

abbrev Source := List Spot

/-- What stands for the end of the text. -/
def endMark : Char := '\x00'

/-- Whether a character may occur in a text. -/
def isAllowed (c : Char) : Bool :=
  let n := c.toNat
  n = 0x09 || n = 0x0A || n = 0x0D || (0x20 ≤ n && n ≤ 0x7E) || n = 0x85 ||
    (0xA0 ≤ n && n ≤ 0xFFFD) || 0x10000 ≤ n

def isBreak (c : Char) : Bool :=
  ['\n', '\r', '\u0085', '\u2028', '\u2029'].contains c

namespace Source

/-- The characters with their places. -/
def place (line column index : Nat) : List Char → Source
  | [] => [⟨endMark, line, column, index⟩]
  | '\r' :: '\n' :: rest => ⟨'\n', line, column, index⟩ :: place (line + 1) 0 (index + 2) rest
  | c :: rest =>
    if isBreak c then
      let c := if c = '\r' ∨ c = '\u0085' then '\n' else c
      ⟨c, line, column, index⟩ :: place (line + 1) 0 (index + 1) rest
    else ⟨c, line, column, index⟩ :: place line (column + 1) (index + 1) rest

/-- The source of a text, if all its characters are allowed. A byte order mark in front of it is
    skipped. -/
def of? (text : List Char) : Option Source :=
  let text :=
    match text with
    | '\uFEFF' :: rest => rest
    | text => text
  if text.all isAllowed then some (place 0 0 0 text) else none

def peek (s : Source) : Char := (s.head?.map (·.char)).getD endMark

def peekAt (s : Source) (n : Nat) : Char := (s[n]?.map (·.char)).getD endMark

def column (s : Source) : Nat := (s.head?.map (·.column)).getD 0

end Source

namespace Spot

/-- Whether the character is a space or a tab. -/
def isBlank (s : Spot) : Bool := s.char = ' ' || s.char = '\t'

def isBreak (s : Spot) : Bool := Yaml.isBreak s.char

def isEnd (s : Spot) : Bool := s.char = endMark

end Spot

/-- Whether a character separates words: a space, a tab, a line break or the end. -/
def isSpace (c : Char) : Bool := c = ' ' || c = '\t' || isBreak c || c = endMark

/-- Whether a character may be part of a name. -/
def isNameChar (c : Char) : Bool := c.isAlphanum || c = '_' || c = '-'

/-- Whether a marker of three characters stands alone at the start of a line. -/
def Source.isMarker (s : Source) (c : Char) : Bool :=
  s.column = 0 && s.peek = c && s.peekAt 1 = c && s.peekAt 2 = c && isSpace (s.peekAt 3)

def Source.isDocumentMarker (s : Source) : Bool := s.isMarker '-' || s.isMarker '.'

def Source.skipBlanks (s : Source) : Source := s.dropWhile Spot.isBlank

/-- What comes after spaces, tabs and a comment, if nothing else is on the line. -/
def Source.endLine? (s : Source) : Option Source :=
  let s : Source := s.skipBlanks
  let s : Source :=
    if s.peek = '#' then s.dropWhile (fun spot => !spot.isBreak && !spot.isEnd) else s
  if isBreak s.peek then some (s.drop 1)
  else if s.peek = endMark then some s
  else none

end TransitFeed.Yaml
