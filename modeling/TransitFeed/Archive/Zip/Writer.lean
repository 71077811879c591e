import TransitFeed.Archive.Basic
import TransitFeed.Archive.Zip.Checksum

/-! # Writing archive files

The contents of the entries come first, each behind a header of its own, then the directory.
-/

namespace TransitFeed.Zip

/-- A number in so many octets, the lowest one first. -/
def number : Nat → Nat → Octets
  | 0, _ => []
  | width + 1, n => UInt8.ofNat (n % 256) :: number width (n / 256)

/-- What a header and the directory say about an entry. The checksum of a corrupt entry is wrong. -/
def facts (entry : Entry) : Octets :=
  let isAscii := entry.name.toList.all fun c => c.toNat < 0x80
  let flags := (if isAscii then 0 else 0x800) + (if entry.state = .locked then 1 else 0)
  let sum := checksum entry.content
  let recorded := if entry.state = .corrupt then sum ^^^ 1 else sum
  number 2 20 ++ number 2 flags ++ number 2 0 ++ number 2 0 ++ number 2 0x21 ++
    number 4 recorded.toNat ++ number 4 entry.content.length ++ number 4 entry.size ++
    number 2 (Utf8.encode entry.name).length ++ number 2 0

def entryText (entry : Entry) : Octets :=
  number 4 0x04034B50 ++ facts entry ++ Utf8.encode entry.name ++ entry.content

/-- The record of an entry that starts at `offset`. -/
def directoryText (entry : Entry) (offset : Nat) : Octets :=
  number 4 0x02014B50 ++ number 2 20 ++ facts entry ++ number 2 0 ++ number 2 0 ++ number 2 0 ++
    number 4 0 ++ number 4 offset ++ Utf8.encode entry.name

/-- The entries, the directory and the length of the entries. -/
def parts (archive : Archive) : Octets × Octets × Nat :=
  let (bodies, records, length) := archive.foldl (fun (bodies, records, length) entry =>
      let body := entryText entry
      (body :: bodies, directoryText entry length :: records, length + body.length))
    (([] : List Octets), ([] : List Octets), 0)
  (bodies.reverse.flatten, records.reverse.flatten, length)

def write (archive : Archive) : Octets :=
  let (bodies, records, length) := parts archive
  bodies ++ records ++ number 4 0x06054B50 ++ number 2 0 ++ number 2 0 ++
    number 2 archive.length ++ number 2 archive.length ++ number 4 records.length ++
    number 4 length ++ number 2 0

end TransitFeed.Zip
