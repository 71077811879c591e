import TransitFeed.Unicode.Runs

/-! # Printable characters

A printable character shows something of its own: it is a letter, a digit, punctuation, a symbol or
the space, and no mark that extends the character before it.
-/

namespace TransitFeed.Unicode

/-- P for a printable character and E for any other one. -/
def printableRuns : Runs := .ofText
  "0E 20P 5fE 22P cE 1P 252E 70P 8E 2P 6E 4P 7E 1P 1E 1P 14E 1P e0E 7P a6E 1P 26E 2P 32E 2P 3E 2eP 1E
1P 1E 2P 1E 2P 1E 9P 1bE 4P 6E 11P aE bP 1E 1P 2eE 15P 10E 1P 65E 8P 1E 6P 2E 2P 1E 4P 20E 2P 1E
1P 1eE 1dP 59E bP 1E eP 2bE 9P 7E 3P 18E 4P 1E 9P 1E 3P 1E 7P fE 1P 19E 5P 1E 1P bE 5P 20E 7P 1E
8P 2aE 39P 37E 1P 1E 1P 4E 8P 4E 1P 3E 7P aE 2P 1dE 1P 2E 1P 8E 2P 2E 2P 16E 1P 7E 1P 1E 3P 4E 3P
1E 1P 2E 6P 2E 2P 2E 1P 1E dP 2E 1P 3E 4P 18E 5P 1E 1P 6E 4P 2E 2P 16E 1P 7E 1P 2E 1P 2E 1P 2E 4P
3E 18P 4E 1P 1E 7P aE 2P 3E 1P 1E cP 1E 1P 9E 1P 3E 1P 16E 1P 7E 1P 2E 1P 5E 3P 4E 8P 1E 1P 2E 3P
1E fP 2E 4P cE 7P 1E 8P 2E 1P 8E 2P 2E 2P 16E 1P 7E 1P 2E 1P 5E 3P 1E 2P 1E 6P 2E 2P 2E fP 2E 1P
3E 4P 12E bP 1E 1P 6E 3P 3E 1P 4E 3P 2E 1P 1E 1P 2E 3P 2E 3P 3E 3P cE 5P 1E 1P 2E 3P 3E 1P 3E 3P
1E 15P 15E 6P 3E 1P 8E 1P 3E 1P 17E 1P 10E 3P 1E 3P 4E 13P 3E 1P 2E 2P 2E 4P aE 7P aE 1P bE 1P 3E
1P 17E 1P aE 1P 5E 3P 2E 2P 1E 1P 2E 17P 3E 1P 2E 4P aE 1P 3E eP bE 1P 3E 1P 29E 2P 1E 1P 2E 5P 3E
1P 3E 1P 2E 4P 3E 1P aE 4P 1aE 2P 2E 1P 12E 3P 18E 1P 9E 1P 1E 2P 7E 9P 2E 6P 7E 7P aE 2P 3E cP
30E 1P 2E bP 8E 8P dE 25P 2E 1P 1E 1P 5E 1P 18E 1P 1E 1P aE 1P 2E 9P 1E 2P 5E 1P 1E 7P 1E 1P aE 2P
4E 20P 18E 2P 1bE 1P 1E 1P 1E 1P eE 1P 24E 12P 1E 5P 1E 2P 5E 31P 8E 1P 6E 1P dE 25P 2dE 4P 1E 6P
1E 2P 2E 2P 19E 2P 4E 3P 10E 4P dE 1P 2E 2P 6E 1P fE 1P 28E 1P 1E 5P 1E 2P 179E 1P 4E 2P 7E 1P 1E
1P 4E 2P 29E 1P 4E 2P 21E 1P 4E 2P 7E 1P 1E 1P 4E 2P fE 1P 39E 1P 4E 2P 43E 5P 1dE 3P 1aE 6P 56E
2P 6E 2P 280E 1P 1cE 3P 59E 7P 12E dP 13E 3P 2E 9P 12E eP dE 1P 3E fP 34E 2P 1E 7P 8E 1P 2E bP 9E
3P aE 6P aE 6P bE 5P aE 6P 59E 7P 5E 2P 22E 1P 1E 5P 46E aP 1fE 4P 4E 2P 3E 4P 2E 1P 6E 7P 1E 3P
2aE 2P 5E bP 2cE 4P 1aE 6P bE 3P 39E 2P 2E 3P 38E 1P 1E 9P 1E 1P 2E 8P 6E dP aE 6P aE 6P eE 21P fE
2P cE 18P 30E aP 4E 3P 8E 1P 1dE 9P cE 2P 20E 4P 2E 6P 38E 1P 1E 2P 3E 1P 1E dP 30E 8P 2E 5P fE 3P
3eE 5P 2bE 2P bE bP 1E dP 1E 7P 4E 1P 6E 1P 3E 2P 1E 5P c0E 40P 116E 2P 6E 2P 26E 2P 6E 2P 8E 1P
1E 1P 1E 1P 1E 1P 1fE 2P 35E 1P fE 1P eE 2P 6E 1P 13E 2P 3E 1P 9E 11P 18E 8P 2fE 11P 2E 2P 1bE 1P
dE 3P 22E 3eP 8cE 4P 29aE 16P bE 15P 714E 2P 179E 3P 2E 5P 2dE 1P 1E 5P 1E 2P 38E 7P 2E fP 17E 9P
7E 1P 7E 1P 7E 1P 7E 1P 7E 1P 7E 1P 7E 1P 7E 21P 5eE 22P 1aE 1P 59E cP d6E 1aP cE 5P 29E 6P 10E 1P
56E 4P 65E 5P 2bE 1P 5eE 1P 56E aP 2fE 1P 726dE 3P 37E 9P 15cE 14P 2fE 4P 1E aP 20E 2P 50E 2P 6E
8P ddE 14P 11E 1P 3E 1P 4E 1P 19E 2P 5E 4P aE 6P 38E 8P 44E aP cE 18P dE 1P 26E 8P 19E bP 1E cP
1eE 6P 30E 1P 2E 4P 2E 2P 2E 1P dE 1P bE 4P 7E 1P 19E 1P 29E 6P 2E 2P 2E bP 3E 1P 8E 1P 1E 2P aE
2P 20E 1P 33E 1P 1E 3P 2E 2P 5E 2P 1E 1P 1E 18P 11E 2P 8E bP 6E 2P 6E 2P 6E 9P 7E 1P 7E 1P 3cE 4P
75E 1P 2E 1P 4E 3P aE 6P 2ba4E cP 17E 4P 31E 2104P 16eE 2P 6aE 26P 7E cP 5E 5P 1E 1P 18E 1P 5E 1P
1E 1P 2E 1P 2E 1P 28aE 20P 10E 10P aE 16P 23E 1P 13E 1P 4E 4P 5E 1P 87E 4P 9dE 2P 1fE 3P 6E 2P 6E
2P 6E 2P 3E 3P 7E 1P 7E dP 2E 2P cE 1P 1aE 1P 13E 1P 2E 1P fE 2P eE 22P 7bE 5P 3E 4P 2dE 3P 58E 1P
dE 3P 1E 2fP 2dE 83P 1dE 3P 31E 10P 1bE 4P 24E 9P 1eE 5P 26E aP 1eE 1P 25E 4P eE 2aP 9eE 2P aE 6P
24E 4P 24E 4P 28E 8P 34E bP cE 1P fE 1P 7E 1P 2E 1P bE 1P fE 1P 7E 1P 2E 3P 34E cP 137E 9P 16E aP
8E 18P 6E 1P 2aE 1P 9E 45P 6E 2P 1E 1P 2cE 1P 2E 3P 1E 2P 17E 1P 48E 8P 9E 30P 13E 1P 2E 5P 21E 3P
1bE 5P 1bE 26P 38E 4P 14E 2P 2fE fP 4E 1P 3E 1P 1dE aP 9E 7P 9E 7P 40E 20P 25E 6P cE 9P 36E 3P 1dE
2P 1bE 5P 1aE 7P 4E cP 7E 50P 49E 37P 33E dP 33E 7P 2aE cP aE 6P 26E 3P 1dE 8P 2E d0P 1fE 1P 2aE
3P 1E 2P 2E 10P 6E 8P 9E 21P 2eE 8P 16E bP 9E 16P 12E 4P 4E 26P 1cE 14P 17E 9P 1E 1P 36E fP 7E 4P
1eE 1P 2E 2P 1E cP 31E 4P 2E 2P 2E 1P 4E eP 19E 7P aE 9P 24E 5P 1E 9P 12E 8P 23E 1P 3E bP 34E 9P
1E 1P 8E 4P 2E 1P 10E 1P 14E bP 12E 1P 1cE 3P 2E 4P 6E 1P 3E 3eP 7E 1P 1E 1P 4E 1P fE 1P bE 6P 2fE
1P 3E dP aE 8P 2E 1P 8E 2P 2E 2P 16E 1P 7E 1P 2E 1P 5E 3P 1E 1P 1E 1P 4E 2P 2E 2P 2E 3P 1E cP 7E
1cP aE 1P 1E 2P 1E 1P 26E 1P 1E 1P 8E 9P 1E 1P 3E 1P 6E 1P 2E 8P 2E 1dP 38E 8P 2E 3P 1E 1P 15E 1P
1E 1P 3E 1eP 30E 1P 2E 6P 1E 1P 2E 1P 1E 2P 1E 2P 4E 8P aE a6P 2fE 1P 2E 6P 4E 2P 1E 2P 1bE 24P
33E 8P 2E 1P 1E 2P 4E bP aE 6P dE 13P 2bE 1P 1E 1P 2E 8P 2E 6P aE 6P 14E 1cP 1bE 5P 2E 4P 1E 9P
17E b9P 2fE 9P 1E 2P 1E 64P 53E cP 8E 2P 1E 2P 8E 1P 2E 1P 18E 1P 5E 1P 2E 6P 4E 1P 3E 9P aE 46P
8E 2P 2aE 8P 4E 1P 4E 1bP 1E aP 28E 6P 2E 4P 8E 9P 1E 6P 2E 3P 2eE dP 1E 2P 9E dP 49E 7P aE 56P 8E
58P 22E eP aE 6P 9E 1P 26E eP 1E 1P 6E aP 1dE 3P 20E 19P 1E 7P 1E 2P 1E 4bP 7E 1P 2E 1P 26E 15P 1E
9P aE 6P 6E 1P 2E 1P 25E 4P 2E 1P 1E 1P 1E 7P aE 6P 2cE 4P aE f6P 13E 2P 4E 7P 11E 1P 29E 3P 3E 1P
19E 55P 1E fP 32E dP 39bE 66P 6fE 1P 5E bP c4E a4cP 63E dP 430E 10P 16E aP f9bE 5P 247E 1ab9P 3aE
6c6P 239E 7P 1fE 1P aE 4P 51E 1P aE 6P 1eE 7P 1E aP 30E 7P fE aP aE 1P 7E 1P 15E 5P 13E 1b0P 3aE
c6P 5bE 5P 19E 2P 19E 2cP 4bE 5P 38E bP dE 40P 4E eP 5E 9P 1cd6E 29P 20E 61P 73E 21fdP 4E 1P 7E 1P
2E 1P 123E fP 1E 1dP 3E 2P 1E eP 4E 8P 18cE 904P 6bE 5P dE 3P 9E 7P aE 2P 1E 2P 1E f60P fdE 3P
1b4E 6P 17E fP 11E 5fP 74E 3cP f6E aP 27E 2P 3cE 5P 3E 16P 2E 7P 1eE 4P 3dE 15P 42E 3P 1E 7aP 14E
cP 14E cP 57E 9P 19E 87P 55E 1P 47E 1P 2E 2P 1E 2P 2E 2P 4E 1P cE 1P 1E 1P 7E 1P 41E 1P 4E 2P 8E
1P 7E 1P 1cE 1P 4E 1P 5E 1P 1E 3P 7E 1P 154E 2P 124E 2P 232E 37P 4E 32P 8E 1P eE 1P 7E 474P 1fE 6P
6E 105P 3eE 21P 1E 70P 2dE aP 7E 2P aE 4P 2E 140P 1eE 12P 2cE 4P aE 5P 1E 1d0P 2aE d6P 2bE 4P 1E
c0P 1fE 1P 16E 8P 2E e0P 7E 1P 4E 1P 2E 1P fE 1P c5E 2P 9E 30P 44E 7P 1E 4P aE 4P 2E 311P 44E 4cP
3dE c2P 4E 1P 1bE 1P 2E 1P 1E 2P 1E 1P aE 1P 4E 1P 1E 1P 1E 6P 1E 4P 1E 1P 1E 1P 1E 1P 3E 1P 2E 1P
1E 2P 1E 1P 1E 1P 1E 1P 1E 1P 1E 1P 2E 1P 1E 2P 4E 1P 7E 1P 4E 1P 4E 1P 1E 1P aE 1P 11E 5P 3E 1P
5E 1P 11E 34P 2E 10eP 2cE 4P 64E cP fE 2P fE 1P fE 1P 25E aP aeE 38P 1dE dP 2cE 4P 9E 7P 2E eP 6E
9aP 3d9E 3P 11E 3P dE 3P daE 6P cE 4P 1E fP cE 4P 38E 8P aE 6P 28E 8P 1eE 2P cE 4P 2E eP 9E 27P
158E 8P eE 2P dE 3P bE 3P 39E 1P 1E 4P 10E 2P cE 4P aE 7P 93E 1P 67E 405P a6e0E 20P 111eE 2P 168eE
2P 1d31E fP 26eE 9a2P 21eE 5e2P 134bE 5P 212aE"

def isPrintable (c : Char) : Bool :=
  if c.toNat < 0x7F then 0x20 ≤ c.toNat else printableRuns.value c.toNat = "P"

example : isPrintable 'a' ∧ isPrintable ' ' ∧ ¬isPrintable '\n' := by decide

end TransitFeed.Unicode
