import TransitFeed.Number.Shortest

/-! # JSON

Values with the members of an object in a fixed order, and their text on one line or on several.
-/

namespace TransitFeed

/-- A JSON value. -/
inductive Json where
  /-- A natural number. -/
  | count (n : Nat)
  /-- A double; what is not finite is written as `null`. -/
  | double (d : Double)
  | text (text : String)
  | array (items : List Json)
  | object (members : List (String × Json))

namespace Json

def hexDigit (n : Nat) : Char := Char.ofNat (if n < 10 then 48 + n else 87 + n)

def escape (c : Char) : List Char :=
  match c with
  | '"' => ['\\', '"']
  | '\\' => ['\\', '\\']
  | '\x08' => ['\\', 'b']
  | '\t' => ['\\', 't']
  | '\n' => ['\\', 'n']
  | '\x0c' => ['\\', 'f']
  | '\r' => ['\\', 'r']
  | c =>
    if c.toNat < 0x20 then
      ['\\', 'u', '0', '0', hexDigit (c.toNat / 16), hexDigit (c.toNat % 16)]
    else [c]

def quoted (text : String) : List Char := '"' :: text.toList.flatMap escape ++ ['"']

def doubleText (d : Double) : List Char :=
  if d.isFinite then DecimalLayout.json.text d else "null".toList

mutual

/-- The text on one line, without spaces. -/
def compact : Json → List Char
  | .count n => Digits.ofNat n
  | .double d => doubleText d
  | .text t => quoted t
  | .array items => '[' :: compactItems items ++ [']']
  | .object members => '\x7b' :: compactMembers members ++ ['\x7d']

def compactItems : List Json → List Char
  | [] => []
  | [item] => compact item
  | item :: items => compact item ++ ',' :: compactItems items

def compactMembers : List (String × Json) → List Char
  | [] => []
  | [(name, value)] => quoted name ++ ':' :: compact value
  | (name, value) :: members => quoted name ++ ':' :: compact value ++ ',' :: compactMembers members

end

/-- The start of a line. -/
def newLine (depth : Nat) : List Char := '\n' :: List.replicate (2 * depth) ' '

mutual

/-- The text on several lines, each indented by two spaces more than the line it belongs to. -/
def pretty (depth : Nat) : Json → List Char
  | .count n => Digits.ofNat n
  | .double d => doubleText d
  | .text t => quoted t
  | .array [] => ['[', ']']
  | .array items => '[' :: prettyItems (depth + 1) items ++ newLine depth ++ [']']
  | .object [] => ['\x7b', '\x7d']
  | .object members => '\x7b' :: prettyMembers (depth + 1) members ++ newLine depth ++ ['\x7d']

/-- The items of an array, each on a line of its own. -/
def prettyItems (depth : Nat) : List Json → List Char
  | [] => []
  | [item] => newLine depth ++ pretty depth item
  | item :: items => newLine depth ++ pretty depth item ++ ',' :: prettyItems depth items

/-- The members of an object, each on a line of its own. -/
def prettyMembers (depth : Nat) : List (String × Json) → List Char
  | [] => []
  | [(name, value)] => newLine depth ++ quoted name ++ ':' :: ' ' :: pretty depth value
  | (name, value) :: members =>
    newLine depth ++ quoted name ++ ':' :: ' ' :: pretty depth value ++
      ',' :: prettyMembers depth members

end

end Json

end TransitFeed
