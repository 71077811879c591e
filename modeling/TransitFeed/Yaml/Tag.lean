import TransitFeed.Yaml.Scalar
import TransitFeed.Yaml.Token

/-! # Tags, anchors and directives

A tag tells the type of a node and an anchor gives it a name. Directives stand in front of a
document: they give a version of YAML, or an abbreviation for the start of tags.
-/

namespace TransitFeed.Yaml

/-- The longest name at the start, and what comes after it. -/
def takeName (s : Source) : List Char × Source :=
  let (name, rest) := s.span fun spot => isNameChar spot.char
  (name.map (·.char), rest)

/-- The name of an anchor or an alias after its indicator, and what comes after it. -/
def anchorName? (s : Source) : Option (String × Source) :=
  let (name, rest) := takeName s
  if name.isEmpty then none
  else if isSpace (Source.peek rest) ||
      ['?', ':', ',', ']', '\x7d', '%', '@', '\x60'].contains (Source.peek rest) then
    some (String.ofList name, rest)
  else none

/-- How many octets a character has whose first octet is given. -/
def octetCount? (first : Nat) : Option Nat :=
  if first < 0x80 then some 1
  else if 0xC0 ≤ first ∧ first < 0xE0 then some 2
  else if 0xE0 ≤ first ∧ first < 0xF0 then some 3
  else if 0xF0 ≤ first ∧ first < 0xF8 then some 4
  else none

/-- An octet as a percent sign and two hexadecimal digits, and what comes after it. -/
def tagOctet? : Source → Option (Nat × Source)
  | percent :: a :: b :: rest => do
    if percent.char = '%' then some ((← hexValue? a.char) * 16 + (← hexValue? b.char), rest)
    else none
  | _ => none

/-- So many more octets of one character, and what comes after them. -/
def tagOctets? : Nat → Source → Option (List Char × Source)
  | 0, s => some ([], s)
  | n + 1, s => do
    let (octet, rest) ← tagOctet? s
    if 0x80 ≤ octet ∧ octet < 0xC0 then
      let (more, rest) ← tagOctets? n rest
      some (Char.ofNat octet :: more, rest)
    else none

/-- Whether a character may be part of a tag. -/
def isTagChar (isVerbatim : Bool) (c : Char) : Bool :=
  isNameChar c ||
    [';', '/', '?', ':', '@', '&', '=', '+', '$', '.', '%', '!', '~', '*', '\'', '(',
      ')'].contains c ||
    (isVerbatim && [',', '[', ']'].contains c)

/-- The characters of a tag, and what comes after them. Every step takes at least one character, so
    `fuel` is their number. -/
def tagChars? (isVerbatim : Bool) : Nat → Source → Option (List Char × Source)
  | 0, s => some ([], s)
  | fuel + 1, s =>
    if !isTagChar isVerbatim s.peek then some ([], s)
    else if s.peek = '%' then do
      let (first, rest) ← tagOctet? s
      let count ← octetCount? first
      let (others, rest) ← tagOctets? (count - 1) rest
      let (more, rest) ← tagChars? isVerbatim fuel rest
      some (Char.ofNat first :: others ++ more, rest)
    else do
      let (more, rest) ← tagChars? isVerbatim fuel (s.drop 1)
      some (s.peek :: more, rest)

/-- An exclamation mark, a name, and one more mark if there is one; and what comes after them. -/
def tagHandle? (s : Source) : Option (List Char × Source) :=
  if s.peek ≠ '!' then none
  else
    let (name, rest) := takeName (s.drop 1)
    if Source.peek rest = '!' then some ('!' :: name ++ ['!'], rest.drop 1)
    else some ('!' :: name, rest)

/-- The handle and the rest of a tag, and what comes after them. -/
def tagParts? (s : Source) : Option (String × String × Source) :=
  if s.peekAt 1 = '<' then do
    let (suffix, rest) ← tagChars? true s.length (s.drop 2)
    if suffix.isEmpty || Source.peek rest ≠ '>' then none
    else some ("", String.ofList suffix, rest.drop 1)
  else do
    let (handle, rest) ← tagHandle? s
    if 2 ≤ handle.length ∧ handle.getLast? = some '!' then
      let (suffix, rest) ← tagChars? false s.length rest
      if suffix.isEmpty then none else some (String.ofList handle, String.ofList suffix, rest)
    else
      let (more, rest) ← tagChars? false s.length rest
      let suffix := handle.drop 1 ++ more
      if suffix.isEmpty then some ("", "!", rest) else some ("!", String.ofList suffix, rest)

def tag? (inFlow : Bool) (s : Source) : Option (Token × Source) := do
  let (handle, suffix, rest) ← tagParts? s
  if isSpace (Source.peek rest) || (inFlow && Source.peek rest = ',') then
    some (.tag handle suffix, rest)
  else none

/-- A number of at most nine digits, and what comes after it. -/
def versionNumber? (s : Source) : Option (Nat × Source) :=
  let (digits, rest) := s.span fun spot => spot.char.isDigit
  if digits.isEmpty || 9 < digits.length then none
  else some (Nat.ofDigitChars 10 (digits.map (·.char)) 0, rest)

def version? (s : Source) : Option (Token × Source) := do
  let (major, rest) ← versionNumber? s.skipBlanks
  if Source.peek rest ≠ '.' then none
  let (minor, rest) ← versionNumber? (rest.drop 1)
  some (.version major minor, rest)

/-- An abbreviation for tags, and what comes after it. -/
def tagPrefix? (s : Source) : Option (Token × Source) := do
  let (handle, rest) ← tagHandle? s.skipBlanks
  if handle ≠ ['!'] ∧ handle.getLast? ≠ some '!' then none
  if !(Source.peek rest = ' ' || Source.peek rest = '\t') then none
  let rest := Source.skipBlanks rest
  let (start, rest) ← tagChars? true rest.length rest
  if start.isEmpty || !isSpace (Source.peek rest) then none
  else some (.tagPrefix (String.ofList handle) (String.ofList start), rest)

/-- A directive after its percent sign, and what comes after its line. -/
def directive? (s : Source) : Option (Token × Source) := do
  let (name, rest) := takeName s
  if name.isEmpty || !isSpace (Source.peek rest) then none
  let (token, rest) ←
    match String.ofList name with
    | "YAML" => version? rest
    | "TAG" => tagPrefix? rest
    | _ => none
  some (token, ← Source.endLine? rest)

end TransitFeed.Yaml
