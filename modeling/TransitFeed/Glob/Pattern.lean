import TransitFeed.Text.Split

/-! # Patterns of names

In a pattern `?` stands for one character, `*` for any text, `[ab-d]` for one of some characters and
`[!ab-d]` for any other one. The pattern `**` stands for folders at any depth.
-/

namespace TransitFeed.Glob

/-- The characters between two, which belong to it. -/
structure Range where
  low : Char
  high : Char
  deriving Repr, DecidableEq

namespace Range

def contains (r : Range) (c : Char) : Bool := r.low ≤ c && c ≤ r.high

/-- The ranges in the text between brackets. A hyphen at an end stands for itself. -/
def ofText : List Char → List Range
  | low :: '-' :: high :: rest => ⟨low, high⟩ :: ofText rest
  | c :: rest => ⟨c, c⟩ :: ofText rest
  | [] => []

end Range

/-- What stands at one place of a pattern. -/
inductive Token where
  | char (c : Char)
  | anyChar
  | anyText
  | oneOf (ranges : List Range)
  | noneOf (ranges : List Range)
  deriving Repr, DecidableEq

namespace Token

/-- Whether a token stands for a single character. -/
def admits : Token → Char → Bool
  | .char c, x => c = x
  | .anyChar, _ => true
  | .anyText, _ => false
  | .oneOf ranges, x => ranges.any (·.contains x)
  | .noneOf ranges, x => !ranges.any (·.contains x)

/-- The character that a token is, if it is one. -/
def char? : Token → Option Char
  | .char c => some c
  | _ => none

/-- The text between brackets and what follows them. The first character may be a bracket. -/
def bracketed? : List Char → Option (List Char × List Char)
  | [] => none
  | first :: rest =>
    match Text.cut (· = ']') rest with
    | (_, none) => none
    | (inside, some after) => some (first :: inside, after)

theorem length_of_cut {p : Char → Bool} {text before after : List Char}
    (h : Text.cut p text = (before, some after)) : after.length < text.length := by
  induction text generalizing before with
  | nil => simp [Text.cut] at h
  | cons c rest ih =>
    rw [Text.cut] at h
    split at h
    · simp_all
    · simp only [Prod.mk.injEq] at h
      have : Text.cut p rest = ((Text.cut p rest).1, some after) := by rw [← h.2]
      have := ih this
      simp only [List.length_cons]
      omega

theorem length_of_bracketed? {text inside after : List Char}
    (h : bracketed? text = some (inside, after)) : after.length < text.length := by
  cases text with
  | nil => simp [bracketed?] at h
  | cons first rest =>
    rw [bracketed?] at h
    split at h
    · simp at h
    · next cut =>
      obtain ⟨_, rfl⟩ := by simpa using h
      have := length_of_cut cut
      simp only [List.length_cons]
      omega

/-- The tokens of a name, if they are well-formed. Two stars in a row are not. -/
def parse? : List Char → Option (List Token)
  | [] => some []
  | '?' :: rest => (parse? rest).map (.anyChar :: ·)
  | '*' :: '*' :: _ => none
  | '*' :: rest => (parse? rest).map (.anyText :: ·)
  | '[' :: '!' :: rest =>
    match _h : bracketed? rest with
    | none => none
    | some (inside, after) => (parse? after).map (.noneOf (Range.ofText inside) :: ·)
  | '[' :: rest =>
    match _h : bracketed? rest with
    | none => none
    | some (inside, after) => (parse? after).map (.oneOf (Range.ofText inside) :: ·)
  | c :: rest => (parse? rest).map (.char c :: ·)
termination_by text => text.length
decreasing_by
  all_goals simp only [List.length_cons]
  all_goals first
    | omega
    | exact Nat.lt_of_lt_of_le (length_of_bracketed? _h) (by omega)

/-- A text and all texts that are left when characters are taken from its start. -/
def suffixes : List Char → List (List Char)
  | [] => [[]]
  | c :: rest => (c :: rest) :: suffixes rest

def stand : List Token → List Char → Bool
  | [], text => text.isEmpty
  | .anyText :: tokens, text => (suffixes text).any (stand tokens)
  | token :: tokens, c :: rest => token.admits c && stand tokens rest
  | _ :: _, [] => false

end Token

/-- What stands between two slashes of a pattern. -/
inductive Component where
  /-- A name as it is. -/
  | literal (name : String)
  /-- Any name for which the tokens stand. -/
  | pattern (tokens : List Token)
  /-- Any number of folders. -/
  | anyFolders
  deriving Repr, DecidableEq

namespace Component

/-- The component that a text stands for, if it is well-formed. -/
def ofText? (text : String) : Option Component :=
  if text = "**" then some .anyFolders
  else (Token.parse? text.toList).map fun tokens =>
    if tokens.all fun t => t.char?.isSome then .literal text else .pattern tokens

/-- Whether a component stands for a name. -/
def standsFor : Component → String → Bool
  | .literal text, name => text = name
  | .pattern tokens, name => Token.stand tokens name.toList
  | .anyFolders, _ => true

/-- The entries `..` and `.` of every folder that a component stands for. They are meant only by
    a pattern that starts with a dot. -/
def dotNames : Component → List String
  | .pattern (.char '.' :: tokens) =>
    ["..", "."].filter fun name => Token.stand (.char '.' :: tokens) name.toList
  | _ => []

/-- The components with one `**` for several in a row. -/
def collapse : List Component → List Component
  | .anyFolders :: .anyFolders :: rest => collapse (.anyFolders :: rest)
  | component :: rest => component :: collapse rest
  | [] => []

end Component

/-- A pattern of paths. -/
structure Pattern where
  isAbsolute : Bool
  components : List Component
  /-- A pattern that ends in a slash is one of folders only. -/
  isForFolders : Bool
  deriving Repr, DecidableEq

namespace Pattern

/-- The texts of the components. A slash at the end is followed by none. -/
def texts (path : List Char) : List String :=
  let parts := (Text.split (· = '/') path).map String.ofList
  match parts.reverse with
  | "" :: last :: before => (last :: before).reverse
  | _ => parts

/-- The pattern that a text stands for, if it is well-formed. -/
def ofText? (text : String) : Option Pattern :=
  let (isAbsolute, path) :=
    match text.toList with
    | '/' :: rest => (true, rest)
    | path => (false, path)
  ((texts path).mapM Component.ofText?).map fun components =>
    { isAbsolute
      components := Component.collapse components
      isForFolders := text.toList.getLast? = some '/' }

end Pattern

end TransitFeed.Glob
