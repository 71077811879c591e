import TransitFeed.Url.Address
import TransitFeed.Url.Domain
import TransitFeed.Url.Percent

/-! # Hosts in URLs

The host of a special URL is an address or a domain name in its ASCII form. Any other URL may have
any name for a host, which is kept as it is.
-/

namespace TransitFeed.Url

/-- What a URL refers to. -/
inductive Host where
  /-- A domain name, or the name of a host in a URL that is not special. -/
  | name (text : List Char)
  /-- An address of 32 bits. -/
  | ipv4 (address : Nat)
  /-- An address of eight pieces. -/
  | ipv6 (pieces : List Nat)
  deriving Repr, DecidableEq

namespace Host

def text : Host → List Char
  | .name text => text
  | .ipv4 address => Ipv4.text address
  | .ipv6 pieces => '[' :: Ipv6.text pieces ++ [']']

/-- Characters that no name of a host contains. -/
def isForbidden (c : Char) : Bool :=
  ['\x00', '\t', '\n', '\r', ' ', '#', '/', ':', '<', '>', '?', '@', '[', '\\', ']', '^',
    '|'].contains c

def ofBracketed? (text : List Char) : Option Host :=
  if text.getLast? = some ']' then (Ipv6.parse? text.dropLast).map .ipv6 else none

def ofSpecial? : List Char → Option Host
  | '[' :: rest => ofBracketed? rest
  | text => do
    let octets := Percent.decode (text.flatMap String.utf8EncodeChar)
    let domain ← Domain.toAscii? (Utf8.decodeFrom none octets)
    if domain.isEmpty then none
    else if Ipv4.isExpected domain then (Ipv4.parse? domain).map .ipv4
    else some (.name domain)

def ofOther? : List Char → Option Host
  | '[' :: rest => ofBracketed? rest
  | text =>
    if text.any isForbidden then none else some (.name (Percent.encode EncodeSet.controls text))

end Host

end TransitFeed.Url
