import TransitFeed.Yaml.Lexer

/-! # Nodes

A document in YAML is a node: a scalar, a sequence or a mapping. A node with an anchor can be used
again by an alias.
-/

namespace TransitFeed.Yaml

/-- A text with its style and its type. -/
structure Scalar where
  style : Style
  tag : Option String
  text : String
  deriving Repr, DecidableEq

/-- A value in YAML. -/
inductive Node where
  | scalar (scalar : Scalar)
  | sequence (items : List Node)
  | mapping (entries : List (Node × Node))
  /-- A sequence or a mapping that stands at an anchor further up. -/
  | shared

namespace Node

/-- A scalar that is not there. -/
def empty (tag : Option String) : Node := .scalar ⟨.plain, tag, ""⟩

/-- What is known while tokens are read. -/
structure State where
  tokens : List Token
  /-- The nodes with anchors, the last one first. -/
  anchors : List (String × Node) := []
  /-- The abbreviations for tags. -/
  prefixes : List (String × String) := [("!", "!"), ("!!", "tag:yaml.org,2002:")]

/-- Reading that can fail. -/
abbrev Reader := StateT State Option

def peek : Reader Token := do
  match (← get).tokens with
  | [] => failure
  | token :: _ => pure token

/-- Goes on to the token after the next one. -/
def skip : Reader Unit := modify fun s => { s with tokens := s.tokens.drop 1 }

/-- The node at the last anchor of a name. -/
def atAnchor (name : String) : Reader Node := do
  match (← get).anchors.lookup name with
  | some node => pure node
  | none => failure

/-- Puts a node at an anchor, if there is one. -/
def place (anchor : Option String) (node : Node) : Reader Unit :=
  match anchor with
  | some name => modify fun s => { s with anchors := (name, node) :: s.anchors }
  | none => pure ()

def fullTag (handle suffix : String) : Reader String := do
  if handle.isEmpty then pure suffix
  else match (← get).prefixes.lookup handle with
    | some start => pure (start ++ suffix)
    | none => failure

/-- The anchor and the tag in front of a node, in any order. -/
def properties : Reader (Option String × Option String) := do
  match ← peek with
  | .anchor name =>
    skip
    match ← peek with
    | .tag handle suffix => do
      skip
      pure (some name, some (← fullTag handle suffix))
    | _ => pure (some name, none)
  | .tag handle suffix => do
    skip
    let anchor ← do
      match ← peek with
      | .anchor name => do
        skip
        pure (some name)
      | _ => pure none
    pure (anchor, some (← fullTag handle suffix))
  | _ => pure (none, none)

/-- Reads a node unless one of the given tokens follows. -/
def orEmpty (stops : List Token) (read : Reader Node) : Reader Node := do
  if stops.contains (← peek) then pure (empty none) else read

mutual

/-- A node. In a block, collections may start by indentation; where items may stand in the column of
    the keys, a dash starts a sequence. Every call takes a token or ends, so `fuel` is a multiple of
    their number. -/
def read (inBlock withoutIndent : Bool) : Nat → Reader Node
  | 0 => failure
  | fuel + 1 => do
    match ← peek with
    | .alias name => do
      skip
      atAnchor name
    | _ => do
      let (anchor, tag) ← properties
      let collection (items : Reader Node) : Reader Node := do
        place anchor .shared
        items
      match ← peek with
      | .scalar style text => do
        skip
        let node : Node := .scalar ⟨style, tag, text⟩
        place anchor node
        pure node
      | .blockEntry => do
        if withoutIndent then collection (do pure (.sequence (← dashes fuel)))
        else missing anchor tag
      | .flowSequenceStart => do
        skip
        collection (do pure (.sequence (← flowItems true fuel)))
      | .flowMappingStart => do
        skip
        collection (do pure (.mapping (← flowEntries true fuel)))
      | .blockSequenceStart => do
        if !inBlock then missing anchor tag
        else
          skip
          collection (do pure (.sequence (← blockItems fuel)))
      | .blockMappingStart => do
        if !inBlock then missing anchor tag
        else
          skip
          collection (do pure (.mapping (← blockEntries fuel)))
      | _ => missing anchor tag

/-- A node of which there is only an anchor or a tag. -/
def missing (anchor tag : Option String) : Reader Node := do
  if anchor.isNone && tag.isNone then failure
  else
    place anchor (empty tag)
    pure (empty tag)

def blockItems : Nat → Reader (List Node)
  | 0 => failure
  | fuel + 1 => do
    match ← peek with
    | .blockEntry => do
      skip
      let item ← orEmpty [.blockEntry, .blockEnd] (read true false fuel)
      pure (item :: (← blockItems fuel))
    | .blockEnd => do
      skip
      pure []
    | _ => failure

/-- The items of a sequence whose dashes stand in the column of the keys around it. -/
def dashes : Nat → Reader (List Node)
  | 0 => failure
  | fuel + 1 => do
    match ← peek with
    | .blockEntry => do
      skip
      let item ← orEmpty [.blockEntry, .key, .value, .blockEnd] (read true false fuel)
      pure (item :: (← dashes fuel))
    | _ => pure []

def blockEntries : Nat → Reader (List (Node × Node))
  | 0 => failure
  | fuel + 1 => do
    match ← peek with
    | .key => do
      skip
      let key ← orEmpty [.key, .value, .blockEnd] (read true true fuel)
      let value ← do
        match ← peek with
        | .value => do
          skip
          orEmpty [.key, .value, .blockEnd] (read true true fuel)
        | _ => pure (empty none)
      pure ((key, value) :: (← blockEntries fuel))
    | .blockEnd => do
      skip
      pure []
    | _ => failure

/-- The items of a flow sequence. A key among them makes a mapping of one entry. -/
def flowItems (isFirst : Bool) : Nat → Reader (List Node)
  | 0 => failure
  | fuel + 1 => do
    if (← peek) = .flowSequenceEnd then
      skip
      pure []
    else
      unless isFirst do
        if (← peek) = .flowEntry then skip else failure
      match ← peek with
      | .flowSequenceEnd => do
        skip
        pure []
      | .key => do
        skip
        let stops : List Token := [.value, .flowEntry, .flowSequenceEnd]
        let key ←
          if stops.contains (← peek) then do
            -- the token after a key that is not there is passed over with it
            skip
            pure (empty none)
          else read false false fuel
        let value ← do
          if (← peek) = .value then
            skip
            orEmpty [.flowEntry, .flowSequenceEnd] (read false false fuel)
          else pure (empty none)
        pure (.mapping [(key, value)] :: (← flowItems false fuel))
      | _ => do
        let item ← read false false fuel
        pure (item :: (← flowItems false fuel))

/-- The entries of a flow mapping. An entry may be a key alone. -/
def flowEntries (isFirst : Bool) : Nat → Reader (List (Node × Node))
  | 0 => failure
  | fuel + 1 => do
    if (← peek) = .flowMappingEnd then
      skip
      pure []
    else
      unless isFirst do
        if (← peek) = .flowEntry then skip else failure
      match ← peek with
      | .flowMappingEnd => do
        skip
        pure []
      | .key => do
        skip
        let key ← orEmpty [.value, .flowEntry, .flowMappingEnd] (read false false fuel)
        let value ← do
          if (← peek) = .value then
            skip
            orEmpty [.flowEntry, .flowMappingEnd] (read false false fuel)
          else pure (empty none)
        pure ((key, value) :: (← flowEntries false fuel))
      | _ => do
        let key ← read false false fuel
        pure ((key, empty none) :: (← flowEntries false fuel))

end

end Node

end TransitFeed.Yaml
