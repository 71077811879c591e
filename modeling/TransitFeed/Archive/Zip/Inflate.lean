import TransitFeed.Number.Power

/-! # Decompression

Compressed data is a row of bits. A block of it holds literal octets and references to octets that
were written before, both in codes of variable length; shorter codes stand for what is frequent.
-/

namespace TransitFeed.Zip

/-- Data that is read bit by bit, the lowest bit of each octet first, and what was made of it. -/
structure BitSource where
  bytes : ByteArray
  /-- How many bits have been read. -/
  position : Nat
  output : ByteArray

/-- Why decompression breaks off. -/
inductive BreakOff where
  /-- The data has ended too early. -/
  | ended
  /-- The data means nothing. -/
  | damaged
  deriving Repr, DecidableEq

/-- Decompression that can break off. What was put out before stays. -/
abbrev Bits := ExceptT BreakOff (StateM BitSource)

namespace Bits

def bit : Bits Nat := do
  let s ← get
  match s.bytes[s.position / 8]? with
  | none => throw .ended
  | some octet =>
    set { s with position := s.position + 1 }
    pure (octet.toNat / twoTo (s.position % 8) % 2)

/-- A number of so many bits, the lowest one first. -/
def number : Nat → Bits Nat
  | 0 => pure 0
  | n + 1 => do
    let low ← bit
    let high ← number n
    pure (low + 2 * high)

/-- Goes on to the next octet. -/
def align : Bits Unit := modify fun s => { s with position := (s.position + 7) / 8 * 8 }

def putOut (octet : UInt8) : Bits Unit := modify fun s => { s with output := s.output.push octet }

/-- Puts out the next octets, or those that are left. -/
def putOutNext (count : Nat) : Bits Unit := do
  let start := (← get).position / 8
  let size := (← get).bytes.size
  modify fun s =>
    { s with
      position := 8 * (start + count)
      output := s.output ++ s.bytes.extract start (start + count) }
  if size < start + count then throw .ended

end Bits

/-- Codes of variable length: how many there are of each length from 1 on, and the symbols in the
    order of their codes. -/
structure Codes where
  counts : List Nat
  symbols : Array Nat

namespace Codes

def maxLength : Nat := 15

/-- The codes of symbols whose lengths are given; a symbol of length 0 has none. -/
def ofLengths (lengths : List Nat) : Codes :=
  let range := (List.range maxLength).map (· + 1)
  let indexed := lengths.zipIdx
  { counts := range.map fun n => lengths.count n
    symbols := (range.flatMap fun n =>
      (indexed.filter fun (length, _) => length = n).map fun (_, symbol) => symbol).toArray }

/-- The symbol of the next code. `code` is what has been read of it, `first` the first code of this
    length and `index` the place of its symbol. -/
def decode (symbols : Array Nat) (code first index : Nat) : List Nat → Bits Nat
  | [] => throw .damaged
  | count :: counts => do
    let code := code + (← Bits.bit)
    if code < first + count then
      match symbols[index + (code - first)]? with
      | some symbol => pure symbol
      | none => throw .damaged
    else decode symbols (2 * code) (2 * (first + count)) (index + count) counts

def symbol (c : Codes) : Bits Nat := decode c.symbols 0 0 0 c.counts

end Codes

/-- The least lengths that the symbols from 257 on stand for, with the bits that are added. -/
def lengthBases : List (Nat × Nat) :=
  [(3, 0), (4, 0), (5, 0), (6, 0), (7, 0), (8, 0), (9, 0), (10, 0), (11, 1), (13, 1), (15, 1),
    (17, 1), (19, 2), (23, 2), (27, 2), (31, 2), (35, 3), (43, 3), (51, 3), (59, 3), (67, 4),
    (83, 4), (99, 4), (115, 4), (131, 5), (163, 5), (195, 5), (227, 5), (258, 0)]

/-- The least distances that symbols stand for, with the bits that are added. -/
def distanceBases : List (Nat × Nat) :=
  [(1, 0), (2, 0), (3, 0), (4, 0), (5, 1), (7, 1), (9, 2), (13, 2), (17, 3), (25, 3), (33, 4),
    (49, 4), (65, 5), (97, 5), (129, 6), (193, 6), (257, 7), (385, 7), (513, 8), (769, 8),
    (1025, 9), (1537, 9), (2049, 10), (3073, 10), (4097, 11), (6145, 11), (8193, 12), (12289, 12),
    (16385, 13), (24577, 13)]

def extended (bases : List (Nat × Nat)) (symbol : Nat) : Bits Nat :=
  match bases[symbol]? with
  | none => throw .damaged
  | some (base, bits) => do pure (base + (← Bits.number bits))

/-- The output with `length` octets more, each equal to the one `distance` octets before it. -/
def copyBack (output : ByteArray) (distance : Nat) : Nat → ByteArray
  | 0 => output
  | length + 1 =>
    copyBack (output.push (output[output.size - distance]?.getD 0)) distance length

/-- The rest of a block of codes. Every step reads at least one bit, so `fuel` is their number. -/
def inflateCodes (literals distances : Codes) : Nat → Bits Unit
  | 0 => throw .damaged
  | fuel + 1 => do
    let symbol ← literals.symbol
    if symbol < 256 then
      Bits.putOut symbol.toUInt8
      inflateCodes literals distances fuel
    else if symbol ≠ 256 then
      let length ← extended lengthBases (symbol - 257)
      let distance ← extended distanceBases (← distances.symbol)
      if (← get).output.size < distance then throw .damaged
      modify fun s => { s with output := copyBack s.output distance length }
      inflateCodes literals distances fuel

/-- The codes that are used where a block brings none. -/
def fixedCodes : Codes × Codes :=
  (.ofLengths (List.replicate 144 8 ++ List.replicate 112 9 ++ List.replicate 24 7 ++
      List.replicate 8 8),
    .ofLengths (List.replicate 30 5))

/-- The order in which the lengths of the codes for lengths are given. -/
def lengthOrder : List Nat := [16, 17, 18, 0, 8, 7, 9, 6, 10, 5, 11, 4, 12, 3, 13, 2, 14, 1, 15]

def threeBits : Nat → Bits (List Nat)
  | 0 => pure []
  | n + 1 => do
    let first ← Bits.number 3
    pure (first :: (← threeBits n))

/-- The lengths of codes, last one first, up to `count` of them. Symbols from 16 on repeat the last
    length or zero. -/
def codeLengths (codes : Codes) (count : Nat) : Nat → List Nat → Bits (List Nat)
  | 0, _ => throw .damaged
  | fuel + 1, lengths => do
    if count ≤ lengths.length then
      if lengths.length = count then pure lengths else throw .damaged
    else
      match ← codes.symbol with
      | 16 =>
        match lengths with
        | [] => throw .damaged
        | last :: _ => do
          let n ← Bits.number 2
          codeLengths codes count fuel (List.replicate (n + 3) last ++ lengths)
      | 17 => do
        let n ← Bits.number 3
        codeLengths codes count fuel (List.replicate (n + 3) 0 ++ lengths)
      | 18 => do
        let n ← Bits.number 7
        codeLengths codes count fuel (List.replicate (n + 11) 0 ++ lengths)
      | length => codeLengths codes count fuel (length :: lengths)

def ownCodes : Bits (Codes × Codes) := do
  let literals := (← Bits.number 5) + 257
  let distances := (← Bits.number 5) + 1
  let given ← threeBits ((← Bits.number 4) + 4)
  let lengths := (List.range 19).map fun symbol => ((lengthOrder.zip given).lookup symbol).getD 0
  let count := literals + distances
  let all := (← codeLengths (.ofLengths lengths) count (count + 1) []).reverse
  pure (.ofLengths (all.take literals), .ofLengths (all.drop literals))

def storedBlock : Bits Unit := do
  Bits.align
  let length ← Bits.number 16
  let check ← Bits.number 16
  if length + check ≠ 0xFFFF then throw .damaged
  Bits.putOutNext length

/-- The remaining blocks. Every block takes bits, so `fuel` is their number. -/
def blocks : Nat → Bits Unit
  | 0 => throw .damaged
  | fuel + 1 => do
    let isLast ← Bits.bit
    let kind ← Bits.number 2
    let size := 8 * (← get).bytes.size
    match kind with
    | 0 => storedBlock
    | 1 => inflateCodes fixedCodes.1 fixedCodes.2 size
    | 2 =>
      let (literals, distances) ← ownCodes
      inflateCodes literals distances size
    | _ => throw .damaged
    if isLast ≠ 1 then blocks fuel

/-- The octets that compressed data stands for, as far as it can be read, and whether it is damaged
    behind them. -/
def inflate (bytes : ByteArray) : ByteArray × Bool :=
  let (ending, s) := (blocks (8 * bytes.size + 1)).run.run ⟨bytes, 0, .empty⟩
  (s.output, match ending with
    | .error .damaged => true
    | .error .ended | .ok () => false)

end TransitFeed.Zip
