import TransitFeed.Yaml.Node

/-! # Documents

A text in YAML may have directives, a marker for the start of its document and one for its end.
Only one document is accepted.
-/

namespace TransitFeed.Yaml

namespace Node

def isDirective : Token → Bool
  | .version .. | .tagPrefix .. => true
  | _ => false

/-- The directives in front of a document. A version is given once at most, and is 1.1 or 1.2; no
    handle is given twice. -/
def directives (hasVersion : Bool) (handles : List String) : List Token → Option State
  | .version major minor :: rest =>
    if hasVersion || major ≠ 1 || !(minor = 1 || minor = 2) then none
    else directives true handles rest
  | .tagPrefix handle start :: rest =>
    if handles.contains handle then none
    else (directives hasVersion (handle :: handles) rest).map fun s =>
      { s with prefixes := (handle, start) :: s.prefixes }
  | tokens => some { tokens }

/-- A document after its start marker. -/
def content (fuel : Nat) : Reader Node := do
  let token ← peek
  if isDirective token || [.documentStart, .documentEnd, .streamEnd].contains token then
    pure (empty none)
  else read true false fuel

/-- The only document of some tokens, if there is one at all. -/
def document? (tokens : List Token) : Option (Option Node) :=
  let fuel := 4 * tokens.length + 4
  let isComplete (s : State) : Bool :=
    s.tokens.dropWhile (· = .documentEnd) = [.streamEnd]
  match tokens with
  | .streamEnd :: _ => some none
  | first :: _ => do
    let isExplicit := isDirective first || first = .documentStart
    let state ← directives false [] tokens
    let (node, rest) ←
      if isExplicit then
        match state.tokens with
        | .documentStart :: after => (content fuel).run { state with tokens := after }
        | _ => none
      else (read true false fuel).run state
    if isComplete rest then some (some node) else none
  | [] => none

end Node

/-- The node of a text in YAML; a text without a document has none. -/
def parse? (text : String) : Option (Option Node) := do Node.document? (← tokens? text.toList)

namespace Scalar

/-- Whether a value may be read from the scalar: it is plain, or it is a literal block with the tag
    of the type. -/
def allows (s : Scalar) (type : String) : Bool :=
  match s.style with
  | .plain => true
  | .literal => s.tag = some ("tag:yaml.org,2002:" ++ type)
  | _ => false

/-- A truth value. -/
def bool? (s : Scalar) : Option Bool :=
  if !s.allows "bool" then none
  else match s.text with
    | "true" | "True" | "TRUE" => some true
    | "false" | "False" | "FALSE" => some false
    | _ => none

def digits? (base : Nat) (digits : List Char) : Option Nat :=
  if digits.isEmpty then none
  else digits.foldlM (fun n c => do
    let d ← hexValue? c
    if d < base then some (n * base + d) else none) 0

/-- A number in one of the bases that have a mark, or in decimal without leading zeros. -/
def number? : List Char → Option Nat
  | '0' :: 'x' :: digits => digits? 16 digits
  | '0' :: 'o' :: digits => digits? 8 digits
  | '0' :: 'b' :: digits => digits? 2 digits
  | ['0'] => some 0
  | '0' :: _ => none
  | digits => digits? 10 digits

def nat64? (s : Scalar) : Option Nat :=
  if !s.allows "int" then none
  else
    let unsigned :=
      match s.text.toList with
      | '+' :: rest => rest
      | text => text
    (number? unsigned).filter (· < UInt64.size)

end Scalar

namespace Node

/-- The scalar of a node that is one. -/
def scalar? : Node → Option Scalar
  | .scalar s => some s
  | _ => none

end Node

end TransitFeed.Yaml
