/-! # Text in octets

Text is stored as UTF-8. Reading never fails: every octet sequence that starts like a character
and breaks off is replaced, as a whole, by one replacement character, and so is every octet that
starts no character.
-/

namespace TransitFeed

/-- The raw content of a file, an archive entry or a cell. -/
abbrev Octets := List UInt8

namespace Utf8

def encode (text : String) : Octets := text.toList.flatMap String.utf8EncodeChar

/-- A character of which some octets have been read. -/
structure Pending where
  /-- The bits read so far. -/
  bits : Nat
  /-- How many octets are still missing. -/
  missing : Nat
  /-- The least octet that may come next. -/
  low : UInt8
  /-- The greatest octet that may come next. -/
  high : UInt8
  deriving Repr, DecidableEq

/-- What stands for octets that are not text. -/
def replacement : Char := '\uFFFD'

/-- One octet where a character starts: the text that is complete, and what is pending. The
    bounds on the second octet exclude long forms, surrogates and what lies beyond U+10FFFF. -/
def start (octet : UInt8) : List Char × Option Pending :=
  let bits := octet.toNat
  if octet < 0x80 then ([Char.ofNat bits], none)
  else if octet < 0xC2 then ([replacement], none)
  else if octet < 0xE0 then ([], some ⟨bits % 0x20, 1, 0x80, 0xBF⟩)
  else if octet < 0xF0 then
    ([], some ⟨bits % 0x10, 2, if octet = 0xE0 then 0xA0 else 0x80,
      if octet = 0xED then 0x9F else 0xBF⟩)
  else if octet < 0xF5 then
    ([], some ⟨bits % 0x08, 3, if octet = 0xF0 then 0x90 else 0x80,
      if octet = 0xF4 then 0x8F else 0xBF⟩)
  else ([replacement], none)

def step (pending : Option Pending) (octet : UInt8) : List Char × Option Pending :=
  match pending with
  | none => start octet
  | some p =>
    if p.low ≤ octet ∧ octet ≤ p.high then
      let bits := p.bits * 0x40 + octet.toNat % 0x40
      if p.missing = 1 then ([Char.ofNat bits], none)
      else ([], some ⟨bits, p.missing - 1, 0x80, 0xBF⟩)
    else
      let (chars, next) := start octet
      (replacement :: chars, next)

def decodeFrom (pending : Option Pending) : Octets → List Char
  | [] => if pending.isSome then [replacement] else []
  | octet :: rest =>
    let (chars, next) := step pending octet
    chars ++ decodeFrom next rest

/-- The text of the octets, with a replacement character for each part that is no text. -/
def decode (octets : Octets) : String := String.ofList (decodeFrom none octets)

/-- The text of the octets, if all of them are text. -/
def decode? (octets : Octets) : Option String :=
  let text := decode octets
  if encode text = octets then some text else none

/-- The mark that may stand in front of a text. -/
def byteOrderMark : Octets := [0xEF, 0xBB, 0xBF]

/-- The octets after a byte order mark, if there is one. -/
def withoutMark : Octets → Octets
  | 0xEF :: 0xBB :: 0xBF :: rest => rest
  | octets => octets

end Utf8

end TransitFeed
