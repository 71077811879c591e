import TransitFeed.Unicode.Composition
import TransitFeed.Unicode.Direction
import TransitFeed.Unicode.Joining
import TransitFeed.Unicode.Mapping
import TransitFeed.Unicode.Mark
import TransitFeed.Url.Punycode

/-! # Domain names

A domain name is brought to one form: lower case, composed characters, and labels with characters
beyond ASCII written in ASCII behind the mark `xn--`.
-/

namespace TransitFeed.Url.Domain

open Unicode

/-- The mark in front of a label that is written in ASCII. -/
def mark : List Char := ['x', 'n', '-', '-']

/-- ASCII characters that no domain name contains. -/
def isDenied (c : Char) : Bool :=
  let n := c.toNat
  n ≤ 0x20 || n = 0x7F ||
    ['%', '#', '/', ':', '<', '>', '?', '@', '[', '\\', ']', '^', '|'].contains c

def isAscii (c : Char) : Bool := c.toNat < 0x80

/-- The characters that are kept or put in place of others. -/
def map? (text : List Char) : Option (List Char) :=
  text.foldr (fun c rest? => rest?.bind fun rest =>
    match Mapping.ofChar c with
    | .valid => some (c :: rest)
    | .ignored => some rest
    | .mapped replacement => some (replacement ++ rest)
    | .disallowed => none) (some [])

/-- Whether the letters around a place join each other. `before` is read backwards. -/
def joined (before after : List Char) : Bool :=
  let next (chars : List Char) :=
    ((chars.map Joining.ofChar).dropWhile (· = .transparent)).head?
  let left := next before
  let right := next after
  (left = some .left || left = some .dual) && (right = some .right || right = some .dual)

/-- Whether every joiner stands where it has an effect: after a mark of class 9, or, for the one
    that keeps letters apart, between letters that join. -/
def joinersFit (before : List Char) : List Char → Bool
  | [] => true
  | c :: rest =>
    let afterVirama :=
      match before with
      | last :: _ => Composition.markClass last = 9
      | [] => false
    let fits :=
      if c = '\u200C' then afterVirama || joined before rest
      else if c = '\u200D' then afterVirama
      else true
    fits && joinersFit (c :: before) rest

def keepsDirection (label : List Char) : Bool :=
  let directions := label.map Direction.ofChar
  let last := (directions.reverse.dropWhile (· = .mark)).head?
  match directions with
  | [] => true
  | .leftToRight :: _ =>
    directions.all (fun d => [.leftToRight, .number, .neutral, .mark].contains d) &&
      (last = some .leftToRight || last = some .number)
  | .rightToLeft :: _ | .arabic :: _ =>
    directions.all (fun d => d ≠ .leftToRight && d ≠ .other) &&
      (last = some .rightToLeft || last = some .arabic || last = some .number ||
        last = some .arabicNumber) &&
      !(directions.contains .number && directions.contains .arabicNumber)
  | _ => false

/-- Whether a label may be part of a domain name. -/
def isValidLabel (label : List Char) : Bool :=
  !(match label with | c :: _ => isMark c | [] => false) &&
    label.all (fun c => Mapping.ofChar c = .valid && !isDenied c) &&
    joinersFit [] label

/-- The label behind a mark; it contains a character that is not ASCII and is in its one form. -/
def ofMarked? (text : List Char) : Option (List Char) := do
  let label ← Punycode.decode? text
  if label.all isAscii || Composition.compose label ≠ label || mark.isPrefixOf label then none
  else some label

/-- The label that a part of a domain name stands for. -/
def label? (part : List Char) : Option (List Char) := do
  let label ← if mark.isPrefixOf part then ofMarked? (part.drop 4) else some part
  if isValidLabel label then some label else none

/-- Whether some label is written from right to left. -/
def hasRightToLeft (labels : List (List Char)) : Bool :=
  labels.any fun label => label.any fun c =>
    [.rightToLeft, .arabic, .arabicNumber].contains (Direction.ofChar c)

/-- A label in ASCII. -/
def labelText (label : List Char) : List Char :=
  if label.all isAscii then label else mark ++ Punycode.encode label

/-- Whether a domain name is ASCII and no part of it is marked. -/
def isPlain (text : List Char) : Bool :=
  text.all isAscii &&
    !(Text.split (· = '.') (text.map Char.toLower)).any (fun part => mark.isPrefixOf part)

def toAscii? (text : List Char) : Option (List Char) :=
  if isPlain text then
    if text.any isDenied then none else some (text.map Char.toLower)
  else do
    let mapped ← map? text
    let labels ← (Text.split (· = '.') (Composition.compose mapped)).mapM label?
    if hasRightToLeft labels && !labels.all keepsDirection then none
    else some (Text.join ['.'] (labels.map labelText))

end TransitFeed.Url.Domain
