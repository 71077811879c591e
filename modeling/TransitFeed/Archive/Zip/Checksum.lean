import TransitFeed.Text.Utf8

/-! # Checksums of archive entries

The checksum of an entry is the remainder of its octets, read as a polynomial over two elements with
the lowest bit first, on division by a polynomial of degree 32.
-/

namespace TransitFeed.Zip

def checksumBit (remainder : UInt32) : UInt32 :=
  if remainder &&& 1 = 1 then (remainder >>> 1) ^^^ 0xEDB88320 else remainder >>> 1

def checksumStep (remainder : UInt32) (octet : UInt8) : UInt32 :=
  (List.range 8).foldl (fun r _ => checksumBit r) (remainder ^^^ octet.toUInt32)

def checksum (octets : Octets) : UInt32 := octets.foldl checksumStep 0xFFFFFFFF ^^^ 0xFFFFFFFF

end TransitFeed.Zip
