import TransitFeed.Number.Digits
import TransitFeed.Number.Power
import TransitFeed.Text.Split

/-! # Addresses in URLs

An IPv4 address has one to four numbers, each decimal, octal or hexadecimal, of which the last one
fills the remaining octets. An IPv6 address has eight 16-bit pieces; a double colon stands for a
row of zeros.
-/

namespace TransitFeed.Url

/-- The number of digits of a base, if there is at least one and all are digits of it. -/
def ofDigits? (base : Nat) (digits : List Char) : Option Nat :=
  if digits.isEmpty then none
  else digits.foldlM (fun total c =>
    let n := c.toNat
    let digit :=
      if 48 ≤ n ∧ n ≤ 57 then some (n - 48)
      else if 65 ≤ n ∧ n ≤ 70 then some (n - 55)
      else if 97 ≤ n ∧ n ≤ 102 then some (n - 87)
      else none
    match digit with
    | some d => if d < base then some (total * base + d) else none
    | none => none) 0

namespace Ipv4

/-- A number of an address. After `0x` alone and after a single zero there may be no digits. -/
def number? : List Char → Option Nat
  | [] => none
  | '0' :: 'x' :: digits | '0' :: 'X' :: digits =>
    if digits.isEmpty then some 0 else ofDigits? 16 digits
  | ['0'] => some 0
  | '0' :: digits => ofDigits? 8 digits
  | digits => ofDigits? 10 digits

/-- The parts of a host, without an empty one behind a last dot. -/
def parts (host : List Char) : List (List Char) :=
  let all := Text.split (· = '.') host
  if all.getLast? = some [] then all.dropLast else all

/-- Whether a host has to be an address because its last part is a number. -/
def isExpected (host : List Char) : Bool :=
  match (parts host).getLast? with
  | none => false
  | some last => (!last.isEmpty && last.all Char.isDigit) || (number? last).isSome

def parse? (host : List Char) : Option Nat := do
  let parts := parts host
  if 4 < parts.length then none
  let numbers ← parts.mapM number?
  let last ← numbers.getLast?
  let leading := numbers.dropLast
  if twoTo (8 * (4 - leading.length)) ≤ last || leading.any (255 < ·) then none
  let filled := leading.foldl (fun total n => total * 256 + n) 0
  some (filled * twoTo (8 * (4 - leading.length)) + last)

def text (address : Nat) : List Char :=
  Text.join ['.'] ([3, 2, 1, 0].map fun i => Digits.ofNat (address / twoTo (8 * i) % 256))

end Ipv4

namespace Ipv6

/-- The four decimal octets at the end of an address as two pieces. -/
def trailing? (text : List Char) : Option (List Nat) :=
  match Text.split (· = '.') text with
  | [a, b, c, d] => do
    let octet? (digits : List Char) : Option Nat := do
      if 1 < digits.length ∧ digits.head? = some '0' then none
      let n ← Digits.value? digits
      if 255 < n then none else some n
    some [(← octet? a) * 256 + (← octet? b), (← octet? c) * 256 + (← octet? d)]
  | _ => none

/-- The pieces of one side of an address; four decimal octets may stand at the end. -/
def pieces? (octetsAllowed : Bool) : List (List Char) → Option (List Nat)
  | [] => some []
  | [part] =>
    if octetsAllowed && part.contains '.' then trailing? part
    else if part.length ≤ 4 then (ofDigits? 16 part).map ([·]) else none
  | part :: parts => do
    if 4 < part.length then none
    let piece ← ofDigits? 16 part
    let rest ← pieces? octetsAllowed parts
    some (piece :: rest)

/-- The text before and after the first double colon. -/
def splitGap? : List Char → Option (List Char × List Char)
  | ':' :: ':' :: rest => some ([], rest)
  | c :: rest => (splitGap? rest).map fun (before, after) => (c :: before, after)
  | [] => none

/-- The parts of one side of a double colon. -/
def side (text : List Char) : List (List Char) :=
  if text.isEmpty then [] else Text.split (· = ':') text

/-- The eight pieces of an address. A double colon stands for at least one zero. -/
def parse? (text : List Char) : Option (List Nat) :=
  match splitGap? text with
  | none => do
    let pieces ← pieces? true (side text)
    if pieces.length = 8 then some pieces else none
  | some (before, after) => do
    let left ← pieces? false (side before)
    let right ← pieces? true (side after)
    let zeros := 8 - left.length - right.length
    if left.length + right.length ≤ 7 then some (left ++ List.replicate zeros 0 ++ right) else none

def hex (n : Nat) : List Char := Nat.toDigits 16 n

def zeroRun (pieces : List Nat) : Nat := (pieces.takeWhile (· = 0)).length

/-- The start of the first longest row of zeros, if it has more than one. -/
def longestRun? (pieces : List Nat) : Option (Nat × Nat) :=
  let runs := (List.range pieces.length).map fun i => (i, zeroRun (pieces.drop i))
  let best := runs.foldl (fun best run => if best.2 < run.2 then run else best) (0, 1)
  if 1 < best.2 then some best else none

/-- The text of an address, with a double colon for the longest row of zeros. -/
def text (pieces : List Nat) : List Char :=
  match longestRun? pieces with
  | none => Text.join [':'] (pieces.map hex)
  | some (start, length) =>
    Text.join [':'] ((pieces.take start).map hex) ++ [':', ':'] ++
      Text.join [':'] ((pieces.drop (start + length)).map hex)

end Ipv6

end TransitFeed.Url
