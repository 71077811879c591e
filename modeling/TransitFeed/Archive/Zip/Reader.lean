import TransitFeed.Archive.Basic
import TransitFeed.Archive.Zip.Checksum
import TransitFeed.Archive.Zip.Inflate
import TransitFeed.Fault

/-! # Reading archive files

An archive file ends with a directory of its entries, and the directory ends with a record that says
where it starts.
-/

namespace TransitFeed.Zip

/-- A number of so many octets, the lowest one first. -/
def numberAt (bytes : ByteArray) (position : Nat) : Nat → Nat
  | 0 => 0
  | n + 1 => (bytes[position]?.getD 0).toNat + 256 * numberAt bytes (position + 1) n

def endMark : Nat := 0x06054B50

/-- The mark of a record of the directory. -/
def directoryMark : Nat := 0x02014B50

/-- How long the last record is without its comment. -/
def endLength : Nat := 22

/-- The last position up to `position` where the last record can start. -/
def findEnd? (bytes : ByteArray) : Nat → Option Nat
  | 0 => if numberAt bytes 0 4 = endMark then some 0 else none
  | position + 1 =>
    if numberAt bytes (position + 1) 4 = endMark then some (position + 1)
    else findEnd? bytes position

/-- The upper half of the character set for names that are not in UTF-8. -/
def oldCharacters : List Char :=
  ("ÇüéâäàåçêëèïîìÄÅÉæÆôöòûùÿÖÜ¢£¥₧ƒáíóúñÑªº¿⌐¬½¼¡«»░▒▓│┤╡╢╖╕╣║╗╝╜╛┐" ++
    "└┴┬├─┼╞╟╚╔╩╦╠═╬╧╨╤╥╙╘╒╓╫╪┘┌█▄▌▐▀αßΓπΣσµτΦΘΩδ∞φε∩≡±≥≤⌠⌡÷≈°∙·√ⁿ²■\u00A0").toList

def nameText (isUtf8 : Bool) (octets : Octets) : String :=
  if isUtf8 then Utf8.decode octets
  else String.ofList (octets.map fun octet =>
    if octet < 0x80 then Char.ofNat octet.toNat
    else oldCharacters[octet.toNat - 0x80]?.getD ' ')

def slice (bytes : ByteArray) (start length : Nat) : Octets :=
  (bytes.extract start (start + length)).toList

/-- The content of an entry, and whether it is damaged. An entry that is stored in a way that is not
    provided for is damaged from the start. -/
def content (bytes : ByteArray) (method start length : Nat) : Octets × Bool :=
  match method with
  | 0 => (slice bytes start length, false)
  | 8 => (inflate (bytes.extract start (start + length))).map ByteArray.toList id
  | _ => ([], true)

/-- The entry of a record of the directory. A content that is not what the record says is corrupt.
    `shift` is the length of what precedes the archive in its file. -/
def entryAt (bytes : ByteArray) (shift record : Nat) : Entry :=
  let flags := numberAt bytes (record + 8) 2
  let nameLength := numberAt bytes (record + 28) 2
  let header := shift + numberAt bytes (record + 42) 4
  let start := header + 30 + numberAt bytes (header + 26) 2 + numberAt bytes (header + 28) 2
  let name := nameText (flags / 0x800 % 2 = 1) (slice bytes (record + 46) nameLength)
  let size := numberAt bytes (record + 24) 4
  if flags % 2 = 1 then { name, content := [], state := .locked, size }
  else
    let length := numberAt bytes (record + 20) 4
    let (content, isDamaged) := content bytes (numberAt bytes (record + 10) 2) start length
    let isIntact := !isDamaged && (checksum content).toNat = numberAt bytes (record + 16) 4
    { name, content, state := if isIntact then .intact else .corrupt, size }

def entries? (bytes : ByteArray) (shift : Nat) : Nat → Nat → Option Archive
  | 0, _ => some []
  | n + 1, record => do
    if numberAt bytes record 4 ≠ directoryMark then none
    let length := 46 + numberAt bytes (record + 28) 2 + numberAt bytes (record + 30) 2 +
      numberAt bytes (record + 32) 2
    let rest ← entries? bytes shift n (record + length)
    some (entryAt bytes shift record :: rest)

/-- The entries with one for each name: the last one of a name, at the place of the first one. -/
def distinct (archive : Archive) : Archive :=
  archive.foldl (fun (kept : Archive) entry =>
    if kept.any fun k => k.name = entry.name then
      kept.map fun k => if k.name = entry.name then entry else k
    else kept ++ [entry]) []

def read (octets : Octets) : Except Fault.Cause Archive :=
  let bytes : ByteArray := ⟨octets.toArray⟩
  let notFound : Except Fault.Cause Archive := .error (.notAnArchive "Could not find EOCD")
  if bytes.size < endLength then notFound
  else match findEnd? bytes (bytes.size - endLength) with
    | none => notFound
    | some last =>
      let size := numberAt bytes (last + 12) 4
      let start := numberAt bytes (last + 16) 4
      match entries? bytes (last - size - start) (numberAt bytes (last + 10) 2) (last - size) with
      | some archive => .ok (distinct archive)
      | none => .error (.notAnArchive "Invalid Central Directory header")

end TransitFeed.Zip
