import TransitFeed.Unicode.Runs

/-! # Directions of writing

Every character of a domain name has a direction of its own or takes the one of its surroundings.
-/

namespace TransitFeed.Unicode

/-- How a character takes part in the direction of a text. -/
inductive Direction where
  /-- A letter written from left to right. -/
  | leftToRight
  /-- A letter written from right to left. -/
  | rightToLeft
  /-- A letter of an Arabic script. -/
  | arabic
  /-- An Arabic number. -/
  | arabicNumber
  /-- A number written from left to right. -/
  | number
  /-- A mark, which belongs to the character before it. -/
  | mark
  /-- A character without a direction. -/
  | neutral
  /-- A character that has no place in a domain name. -/
  | other
  deriving Repr, DecidableEq

namespace Direction

/-- The directions by their short names; the rest are kinds of neutral characters. -/
def runs : Runs := .ofText
  "0BN 9X 5BN eX 5ON 2ET 3ON 5ES 1CS 1ES 1CS 2EN aCS 1ON 26L 1aON 4BN 22ON 1ET 4ON aET 6ON 29L 18ON
1L 1c1ON 2L 7ON eL 2ON 1cL 1ON 11NSM 71L 4ON 2L 7fON 2L 8bNSM 8L ffON 5ET 2NSM 2dR 1NSM 1R 1NSM 2R
1NSM 2R 1NSM 9R 36ON 2AL 1ET 2AL 1CS 1AL 1ON 2NSM bAL 30NSM 15AN aET 1AN 2AL 3NSM 1AL 65NSM 8ON
1NSM 6AL 2NSM 2ON 1NSM 4AL 2EN aAL 17NSM 1AL 1eNSM 1dAL 59NSM bAL fR 2bNSM 9R 2ON 4R 3NSM 1R 18NSM
4R 1NSM 9R 1NSM 3R 1NSM 7R 29NSM 5R 2AL 2fL 9NSM 8AL 2aNSM 39L 37NSM 1L 1NSM 1L 4NSM 8L 4NSM 1L
3NSM fL 2NSM 2L 1dNSM 1L 3aNSM 1L 4NSM 6L 6NSM 1L 14NSM 4L cET 2L 7ET 1L 2NSM 5L 39NSM 2L 3NSM 1bL
14NSM 2L 3NSM 1L bNSM 2L 39NSM 1L 4NSM 8L 4NSM 3L 12NSM 4L bET 8L 1NSM 8L 3aNSM 1L 2NSM 1L 1NSM 6L
6NSM aL bNSM 4L 1cNSM 1L 3dNSM 1L cNSM 3L 23ON 6ET 1ON 6NSM 1L 3NSM 1L 37NSM 1L 1NSM 3L 5NSM 12L
aNSM 4L 12ON 7L 2NSM 1L 3aNSM 1L fNSM 9L dNSM 4L 1aNSM 2L 39NSM 2L 4NSM 5L 7NSM 1L 14NSM 4L 1bNSM
1L 48NSM 5L 3NSM 6L 59NSM 1L 2NSM bET 1L 7NSM 8L 62NSM 1L 2NSM 9L bNSM 6L 4aNSM 2L 1bNSM 1L 1NSM
1L 1NSM 1ON 4L 33NSM eL 1NSM 5L 1NSM 2L 5NSM 31L 8NSM 1L 66NSM 4L 1NSM 6L 1NSM 2L 2NSM 2L 19NSM 2L
4NSM 3L 10NSM 4L dNSM 1L 2NSM 2L 6NSM 1L fNSM 1L 2bfNSM 3L 30ON 10L 60ON 1L 29aON 5L 72NSM 3L
1dNSM 2L 1eNSM eL 12NSM eL 37NSM 7L 8NSM 1L 2NSM bL 7ET 1L 1NSM 3L 10ON 20L 75NSM 2L 22NSM 1L
76NSM 3L 4NSM 2L 9NSM 1L 6NSM 7ON 6L 98ON 22L 17NSM 2L 2NSM 3L 38NSM 1L 1NSM 9L 1NSM 1L 2NSM 8L
6NSM dL 30NSM 1fL 31NSM 4L 30NSM 1L 1NSM 5L 1NSM 1L 5NSM 1L 28NSM 9L cNSM 2L 20NSM 4L 2NSM 2L 1NSM
3L 38NSM 1L 1NSM 2L 3NSM 1L 1NSM 3L 3aNSM 8L 2NSM 5L 95NSM 3L 1NSM dL 1NSM 7L 4NSM 1L 6NSM 1L 3NSM
2L c6NSM 41L 20bBN 4ON 20ET 5ON fCS 1ON 5bET 21L fNSM 34ON 2aET cON 14L 3cON 88ES 1ET 1ON 122L
45ON 1aL 1ON 91L 19ON 26cL 1ON 153L 100ON 296L 1ON 99L b5ON 7L 3NSM 4L 6ON 7L 7fNSM 1L 60NSM 20ON
205L 3ON 19L 9NSM 4L 2ON 1L 6ON 4L 2ON 4L 58NSM 4L 3ON 1L 5aON 1L c4ON 24L 1bdcON 40L 5690ON 40L
13dON 3L 5fNSM 4ON 1NSM aON 3L 1dNSM 2L 50NSM 2L eON 23L 65ON 1L 79NSM 1L 3NSM 1L 4NSM 1L 19NSM 2L
1ON 4NSM 4L 8ET 8L 34ON cL 44NSM aL 12NSM 12L dNSM 1L 26NSM 8L 19NSM bL 2eNSM 3L 30NSM 1L 2NSM 4L
2NSM 2L 27NSM 1L 43NSM 6L 2NSM 2L 2NSM bL 3NSM 1L 8NSM 1L 2fNSM 1L 33NSM 1L 1NSM 3L 2NSM 2L 5NSM
2L 1NSM 1L 2aNSM 2L 8NSM bL 69ON 56L 25NSM 1L 2NSM 1L 4NSM 3L 4f2eNSM 94AL 11L 17bON 52L 3fON
51NSM 25ON 2eAL 18dL 101ON 1L 3eON 4dL 3ON 40L 2dNSM 83L 60NSM 1EN 1fL 76NSM aL 480R 11fON 1R 20L
40R 81NSM fR 28NSM 8R a5NSM 6R 4eON 7R 1c0AL 24NSM cAN 10L 120AN 20R 2bNSM 2R 15L 3eR 30AL 16NSM
bAL 1fR 12NSM 4R 7aL 1NSM 1L 36NSM fL bON 14L aNSM 1L 2NSM 2L aNSM 3L 31NSM 4L 2NSM 2L 7NSM eL
30NSM 3L 24NSM 5L 1NSM 9L 3dNSM 1L cNSM 2L 34NSM 9L aNSM 4L 2NSM 1L 5fNSM 3L 2NSM 1L 1NSM 2L 6NSM
1L a0NSM 1L 3NSM dL 10NSM 2L 39NSM 2L 3NSM 1L 25NSM 1aL b8NSM 8L 2NSM 3L 1NSM 1L 17NSM 1L 54NSM 6L
1NSM 1L 4NSM 2L 1NSM 2L eeNSM 6L 4NSM 2L 1NSM 2L 1bNSM 24L 33NSM 8L 2NSM 1L 1NSM 2L 1fON 20L 2bNSM
1L 1NSM 1L 2NSM 6L 1NSM 1L 65NSM 3L 2NSM 4L 1NSM 9L ffNSM 9L 1NSM 2L 100NSM 2L 1NSM 1L 4NSM 1L
90NSM 8L 4NSM 1L 20NSM 6L 2NSM 2L 28NSM 6L 2NSM 4L 8NSM 9L 1NSM 6L 2NSM 3L 2eNSM dL 1NSM 2L 196NSM
eL 54NSM 17L 1NSM 7L 1NSM 2L 1NSM 4bL 31NSM 15L 1NSM 9L 40NSM 3L 2NSM 1L 1NSM 1L 15bNSM 2L e0ON
8ET 4ON 1eL 4af1NSM 5L 3bNSM 7L 418NSM 1L 3fNSM 4L 4fON 1L 1NSM cL 4cadNSM 2L 1261NSM 50L 217NSM
3L 11NSM 8L 2NSM 7L 1eNSM 4L 3bON 59NSM 3ON 7bL 40ON 60L 6a0NSM 37L 4NSM 32L 8NSM 1L eNSM 1L 16NSM
465L 100NSM 8fL a1NSM 7L 177NSM 12L 2cNSM 4L fET 1d1L 330R d0NSM 52R 22NSM 7R 326AL 27fON 260L
1dON 3L 3dON 39L 7aON 478L 5ON 97L cON 59L 7ON d2L 4eON 154L cON 15L 3ON fL 9ON 1dL 3ON bL 5ON 6L
aON aL 6ON 8L 8ON 7L 9ON cbL"

def ofChar (c : Char) : Direction :=
  match runs.value c.toNat with
  | "L" => .leftToRight
  | "R" => .rightToLeft
  | "AL" => .arabic
  | "AN" => .arabicNumber
  | "EN" => .number
  | "NSM" => .mark
  | "X" => .other
  | _ => .neutral

end Direction

end TransitFeed.Unicode
