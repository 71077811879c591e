/-! # Punycode

A label with characters beyond ASCII is written in ASCII: first its ASCII characters, then, after a
hyphen, where the other characters go. They are inserted in ascending order; each step counts how
many insertions of smaller or earlier characters are skipped, in digits of a base 36 whose weights
adapt to the sizes seen before.
-/

namespace TransitFeed.Url.Punycode

def base : Nat := 36

/-- How many times the distance is divided, and what is left of it. -/
def damped (distance steps : Nat) : Nat × Nat :=
  if 455 < distance then damped (distance / 35) (steps + 1) else (distance, steps)
termination_by distance

/-- The weights to expect after a distance. -/
def adapt (distance count : Nat) (first : Bool) : Nat :=
  let distance := if first then distance / 700 else distance / 2
  let (rest, steps) := damped (distance + distance / count) 0
  steps * base + 36 * rest / (rest + 38)

/-- The least digit of position `position` that does not end a number. -/
def threshold (bias position : Nat) : Nat := min 26 (max 1 (position * base - bias))

def digitChar (digit : Nat) : Char := Char.ofNat (if digit < 26 then 97 + digit else 22 + digit)

def digit? (c : Char) : Option Nat :=
  let n := c.toNat
  if 97 ≤ n ∧ n ≤ 122 then some (n - 97)
  else if 65 ≤ n ∧ n ≤ 90 then some (n - 65)
  else if 48 ≤ n ∧ n ≤ 57 then some (n - 22)
  else none

/-- A distance in digits of variable weight. -/
def encodeDistance (bias position distance : Nat) : List Char :=
  let t := threshold bias position
  if distance < t then [digitChar distance]
  else
    digitChar (t + (distance - t) % (base - t)) ::
      encodeDistance bias (position + 1) ((distance - t) / (base - t))
termination_by distance
decreasing_by
  have : 1 ≤ t := by simp only [t, threshold]; omega
  refine Nat.lt_of_le_of_lt (Nat.div_le_self _ _) ?_
  omega

/-- How far the encoding of a label has come. -/
structure Progress where
  /-- Insertions skipped since the last one made. -/
  distance : Nat
  bias : Nat
  /-- How many characters have been placed. -/
  handled : Nat
  first : Bool
  /-- What has been written, last character first. -/
  written : List Char

/-- Places one occurrence of the character with code `code` after the smaller and earlier ones. -/
def place (code : Nat) (p : Progress) (c : Char) : Progress :=
  if c.toNat < code then { p with distance := p.distance + 1 }
  else if c.toNat = code then
    { distance := 0
      bias := adapt p.distance (p.handled + 1) p.first
      handled := p.handled + 1
      first := false
      written := (encodeDistance p.bias 1 p.distance).reverse ++ p.written }
  else p

/-- The codes of the characters beyond ASCII, each once, in ascending order. -/
def codes (label : List Char) : List Nat :=
  let insert (sorted : List Nat) (n : Nat) : List Nat :=
    if sorted.contains n then sorted else sorted.filter (· < n) ++ n :: sorted.filter (n < ·)
  ((label.map Char.toNat).filter (128 ≤ ·)).foldl insert []

/-- The ASCII form of a label, without a mark in front. -/
def encode (label : List Char) : List Char :=
  let ascii := label.filter fun c => c.toNat < 128
  let start : Progress :=
    { distance := 0, bias := 72, handled := ascii.length, first := true, written := [] }
  let step (state : Nat × Progress) (code : Nat) : Nat × Progress :=
    let (next, p) := state
    let p := { p with distance := p.distance + (code - next) * (p.handled + 1) }
    let p := label.foldl (place code) p
    (code + 1, { p with distance := p.distance + 1 })
  let (_, done) := (codes label).foldl step (128, start)
  ascii ++ (if ascii.isEmpty then [] else ['-']) ++ done.written.reverse

/-- A number in digits of variable weight, and the text after it. -/
def decodeDistance? (bias position weight total : Nat) :
    List Char → Option (Nat × List Char)
  | [] => none
  | c :: rest => do
    let digit ← digit? c
    let total := total + digit * weight
    let t := threshold bias position
    if digit < t then some (total, rest)
    else decodeDistance? bias (position + 1) (weight * (base - t)) total rest

theorem length_lt_of_decodeDistance? {bias position weight total : Nat} {text : List Char}
    {result : Nat × List Char}
    (h : decodeDistance? bias position weight total text = some result) :
    result.2.length < text.length := by
  induction text generalizing position weight total with
  | nil => simp [decodeDistance?] at h
  | cons c rest ih =>
    rw [decodeDistance?] at h
    cases hd : digit? c with
    | none => simp [hd] at h
    | some digit =>
      simp only [hd, Option.bind_eq_bind, Option.bind_some] at h
      split at h
      · cases h
        simp
      · exact Nat.lt_trans (ih h) (by simp)

/-- The label in which the remaining insertions have been made. -/
def insertAll? (label : List Char) (code index bias : Nat) (first : Bool) (text : List Char) :
    Option (List Char) :=
  if text.isEmpty then some label
  else
    match h : decodeDistance? bias 1 1 0 text with
    | none => none
    | some (distance, rest) =>
      let count := label.length + 1
      let position := index + distance
      let next := code + position / count
      if next.isValidChar then
        let place := position % count
        insertAll? (label.take place ++ Char.ofNat next :: label.drop place) next
          (place + 1) (adapt distance count first) false rest
      else none
termination_by text.length
decreasing_by exact length_lt_of_decodeDistance? h

/-- The text before and after the last hyphen. Without a text before it there is nothing to
    separate, and all of the text comes after. -/
def splitBasic (text : List Char) : List Char × List Char :=
  let after := (text.reverse.takeWhile (· ≠ '-')).reverse
  let basic := text.take (text.length - after.length - 1)
  (basic, if basic.isEmpty then text else after)

/-- The label that an ASCII form without its mark stands for. -/
def decode? (text : List Char) : Option (List Char) :=
  let (basic, rest) := splitBasic text
  if basic.all fun c => c.toNat < 128 then insertAll? basic 128 0 72 true rest else none

end TransitFeed.Url.Punycode
