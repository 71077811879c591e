import TransitFeed.Text.Utf8

/-! # Percent encoding

Characters that may not stand in a part of a URL are written as the octets of their UTF-8 form,
each as a percent sign and two hexadecimal digits. Each part has a set of its own.
-/

namespace TransitFeed.Url

/-- The ASCII characters that a part of a URL does not show as they are. -/
abbrev EncodeSet := Char → Bool

namespace EncodeSet

/-- Control characters. -/
def controls : EncodeSet := fun c => c.toNat < 0x20 || c.toNat = 0x7F

/-- Characters encoded in a fragment. -/
def fragment : EncodeSet := fun c => controls c || [' ', '"', '<', '>', '\x60'].contains c

/-- Characters encoded in a query. -/
def query : EncodeSet := fun c => controls c || [' ', '"', '#', '<', '>'].contains c

/-- Characters encoded in the query of a special URL. -/
def specialQuery : EncodeSet := fun c => query c || c = '\''

/-- Characters encoded in a path. -/
def path : EncodeSet := fun c => fragment c || ['#', '?', '\x7b', '\x7d'].contains c

/-- Characters encoded in a user name or a password. -/
def userinfo : EncodeSet := fun c =>
  path c || ['/', ':', ';', '=', '@', '[', '\\', ']', '^', '|'].contains c

end EncodeSet

namespace Percent

def hexDigit (n : Nat) : Char := Char.ofNat (if n < 10 then 48 + n else 55 + n)

def encodeOctet (octet : UInt8) : List Char :=
  ['%', hexDigit (octet.toNat / 16), hexDigit (octet.toNat % 16)]

/-- A text in which the characters of the set and all characters beyond ASCII are encoded. -/
def encode (set : EncodeSet) (text : List Char) : List Char :=
  text.flatMap fun c =>
    if c.toNat < 0x80 && !set c then [c] else (String.utf8EncodeChar c).flatMap encodeOctet

def hexValue? (octet : UInt8) : Option UInt8 :=
  if 48 ≤ octet ∧ octet ≤ 57 then some (octet - 48)
  else if 65 ≤ octet ∧ octet ≤ 70 then some (octet - 55)
  else if 97 ≤ octet ∧ octet ≤ 102 then some (octet - 87)
  else none

/-- The octets with every percent sign and two hexadecimal digits replaced by what they stand
    for. -/
def decode : Octets → Octets
  | 37 :: a :: b :: rest =>
    match hexValue? a, hexValue? b with
    | some high, some low => (high * 16 + low) :: decode rest
    | _, _ => 37 :: decode (a :: b :: rest)
  | octet :: rest => octet :: decode rest
  | [] => []

end Percent

end TransitFeed.Url
