import TransitFeed.Unicode.Runs

/-! # Joining letters

In some scripts letters join their neighbours.
-/

namespace TransitFeed.Unicode

/-- How a character joins its neighbours. -/
inductive Joining where
  /-- It joins the letter before it. -/
  | right
  /-- It joins the letter after it. -/
  | left
  /-- It joins on both sides. -/
  | dual
  /-- Joining passes through it. -/
  | transparent
  /-- It does not join. -/
  | none
  deriving Repr, DecidableEq

namespace Joining

/-- R, L, D and T, and U or C for what does not join as a letter. -/
def runs : Runs := .ofText
  "0U 300T 71U 112T 8U 106T 2dU 1T 1U 1T 2U 1T 2U 1T 9U 40T bU 5D 1U 1R 4D 1R 1D 1R 1D 5R 4D dC 1D 7R
1D 2T 15U eD 2T 1R 3U 5D fR 12D 26R 1D 2R 9D 1R 1D 1R 1D 2R 2U 1R 1T 8U 1T 6U 2T 2U 1T 4R 2U aD 3U
2D 1U 10R 1T 1D 3R 5D 4R 1D 9R 1D 1R 1D 1R 1D 2R 1T 1dR 1D bR 3D fR 2D 4R 1D 1R 2D 3R 2D 6U 26T bU
19D 21T 9U 6C 3T 1U 18T 4U 1T 9U 1T 3U 1T 7U 10R 1D 5R 2D 1R 1D aR 1D 1R 3T 5U 2D 1U 1D 4U 1R 1D
1R 1aC 3D 1U 2D 5R 1D 8T 9D aR 3U 1R 1D 2R 2D 6R 1D fU 1T 39U 37T 1U 1T 1U 4T 8U 4T 1U 3T fU 2T 2U
1dT 1U 3aT 1U 4T 6U 6T 1U 14T 4U 18T 5U 39T 2U 3T 1bU 14T 2U 3T 1U bT 2U 39T 1U 4T 8U 4T 3U 12T 4U
14T 8U 3aT 1U 2T 1U 1T 6U 6T aU bT 4U 1cT 1U 3dT 1U cT 3U 30T 1U 3T 1U 37T 1U 1T 3U 5T 12U aT 4U
1bT 1U 3aT 1U 2T 1U 6T 1U 5T 9U dT 4U 1aT 2U 39T 2U 4T 5U 7T 1U 14T 4U 1bT 1U 48T 5U 3T 6U 59T 1U
2T bU 8T 8U 62T 1U 2T 9U bT 8U 48T 2U 1bT 1U 1T 1U 1T 1U 37T eU 1T 5U 1T 2U 5T 31U 8T 1U 66T 4U 1T
6U 1T 2U 2T 2U 19T 2U 4T 3U 10T 4U dT 1U 2T 2U 6T 1U fT 1U 2bfT 3U 3b2T 3U 1dT 2U 1eT eU 12T eU
37T 7U 8T 1U 2T bU 9T 3U 27D 1U 2C 6U 10D 60U 5T 2D 22T 1D 6U 70T 3U 4T 2U 9T 1U 6T 7U d7T 2U 2T
3U 38T 1U 1T 9U 1T 1U 2T 8U 6T dU 30T 54U 30T 1U 1T 5U 1T 1U 5T 1U 28T 9U cT 2U 20T 4U 2T 2U 1T 3U
38T 1U 1T 2U 3T 1U 1T 3U 3aT 8U 2T 5U 95T 3U 1T dU 1T 7U 4T 1U 6T 1U 3T 2U c6T 41U 20cC 3U c0T 34U
bebT 4U 8cT 1U 60T 20U 22aT 4U 6bT 4U 75d2T 4U 1T aU 20T 2U 50T 2U 110T 1U 3T 1U 4T 1U 19T 2U 5T
4U 10D 32L 1U 51T aU 12T 12U dT 1U 26T 8U 19T bU 2eT 3U 30T 1U 2T 4U 2T 2U 27T 1U 43T 6U 2T 2U 2T
bU 3T 1U 8T 1U 2fT 1U 33T 1U 1T 3U 2T 2U 5T 2U 1T 1U 2aT 2U 8T bU e4T 1U 2T 1U 4T 3U 4f2eT 94U
26eT 25U 3b8T 83U 60T 1U 95T aU 681T fU 28T 8U 80D 5R 1U 1R 1U 1R 2U 2L 1R 5D 4L 1D 5R 1D 3R 1U 2R
1T 6D 4R 1U 90D 1R 1D 1R 3D 3R 1D 2R 1D 1R 2D 1R 8U 10R 4D 2U 151L 1D 21R 1D 1T cU 39T 5U 13dT 2U
15R 1D 2U 1D aU 2aT 6U 30D 3R 1D 11U 1T bD 3R 1U 1bD 4R 2D cT 4U 2aD 1U 1D 2R 3U 1D 1R 2D 2R 1D 2U
1D 1R 2D 1U 4R 1D 1L 15U 21T 1U 36T fU 29T 1U 2T 2U aT 3U 31T 4U 2T 2U 7T eU 30T 3U 24T 5U 1T 9U
3dT 1U cT 2U 34T 9U aT 4U 2T 1U 5fT 3U 2T 1U 1T 2U 6T 1U 2T 3fU 5fT 1U 3T dU 10T 2U 39T 2U 3T 1U
25T 1aU 3bT 7U cT 1U 1T 1U 1T 1U eT 1fU 38T 8U 2T 3U 1T 1U 17T 1U 54T 6U 1T 1U 4T 2U 1T 2U eeT 6U
4T 2U 1T 2U 1bT 24U 33T 8U 2T 1U 1T 2U 6aT 1U 1T 1U 2T 6U 1T 1U 65T 1U 1T 1U 2T 4U 1T 9U ffT 9U 1T
2U 100T 2U 1T 1U 4T 1U 90T 8U 4T 1U 20T aU 28T 6U 2T 4U 8T 9U 1T 6U 2T 3U 2eT dU 1T 2U c6T 1U 1T
3U 1T 1U c9T eU 1T 1U 52T 17U 1T 7U 1T 2U 1T 4bU 31T 15U 1T 9U 40T 3U 2T 1U 1T 1U 15bT 2U bT 2U
34T 8U 2T 1U 1T 1U 17T 56U 1490T 1U 6T 19U 2cbeT cU 3T 3U 9c0T 5U 3bT 7U 418T 1U 3fT 4U 51T cU
4cadT 2U 1261T 50U 217T 3U 11T 8U 2T 7U 1eT 4U 94T 3U 7bbT 37U 4T 32U 8T 1U eT 1U 16T 465U 100T
100U 30T 7U 177T 12U 2cT 4U 1fcT 4U feT 2U f3T 1U 2T 1U 7T 2U 5T 9U 1d2T 52D 22T cU"

def ofChar (c : Char) : Joining :=
  match runs.value c.toNat with
  | "R" => .right
  | "L" => .left
  | "D" => .dual
  | "T" => .transparent
  | _ => .none

end Joining

end TransitFeed.Unicode
