import TransitFeed.Url.Basic

/-! # Reading URLs

A text is an absolute URL if it starts with a scheme. What follows is read leniently where the
scheme is special: slashes may lean either way, and there may be any number of them.
-/

namespace TransitFeed.Url

/-- How the text after a scheme is read. -/
inductive SchemeKind where
  /-- A scheme with an authority and a port of its own. -/
  | special (defaultPort : Nat)
  /-- The scheme of files. -/
  | file
  /-- Any other scheme. -/
  | other
  deriving Repr, DecidableEq

namespace SchemeKind

def ofScheme (scheme : List Char) : SchemeKind :=
  match String.ofList scheme with
  | "http" | "ws" => .special 80
  | "https" | "wss" => .special 443
  | "ftp" => .special 21
  | "file" => .file
  | _ => .other

/-- The port that goes without saying. -/
def defaultPort? : SchemeKind → Option Nat
  | .special port => some port
  | _ => none

/-- Whether a character separates the segments of a path. -/
def isSlash : SchemeKind → Char → Bool
  | .other, c => c = '/'
  | _, c => c = '/' || c = '\\'

/-- The characters that are encoded in a query. -/
def querySet : SchemeKind → EncodeSet
  | .other => .query
  | _ => .specialQuery

end SchemeKind

/-- The text without spaces and control characters at its ends, and without tabs and line breaks. -/
def clean (text : List Char) : List Char :=
  let isEdge (c : Char) : Bool := c.toNat ≤ 0x20
  let inner := ((text.dropWhile isEdge).reverse.dropWhile isEdge).reverse
  inner.filter fun c => !(['\t', '\n', '\r'].contains c)

/-- The scheme in lower case, and the text after its colon. -/
def scheme? (text : List Char) : Option (List Char × List Char) :=
  let isSchemeChar (c : Char) : Bool := c.isAlphanum || ['+', '-', '.'].contains c
  match text.span isSchemeChar with
  | (c :: name, ':' :: rest) =>
    if c.isAlpha then some ((c :: name).map Char.toLower, rest) else none
  | _ => none

/-- The encoded user name and password. -/
def credentials (text : List Char) : List Char × List Char :=
  let (username, password) := Text.cut (· = ':') text
  let encode := Percent.encode EncodeSet.userinfo
  (encode username, encode (password.getD []))

/-- The text up to the first colon that is not between brackets, and the rest. -/
def cutHost (inBrackets : Bool) : List Char → List Char × List Char
  | [] => ([], [])
  | c :: rest =>
    if c = ':' ∧ !inBrackets then ([], c :: rest)
    else
      let (host, rest) := cutHost (c = '[' || (c ≠ ']' && inBrackets)) rest
      (c :: host, rest)

/-- A port, and the text that follows it in a URL whose paths do not start with a backslash. -/
def port? (kind : SchemeKind) (text : List Char) : Option (Option Nat × List Char) :=
  let (digits, rest) := text.span Char.isDigit
  let number := Nat.ofDigitChars 10 digits 0
  if 65535 < number || !(rest.isEmpty || rest.head? = some '\\') then none
  else
    let port := if digits.isEmpty || kind.defaultPort? = some number then none else some number
    some (port, rest)

/-- The authority of a URL that is not a file. Of the text before the path, the part behind a
    port that a backslash ends belongs to the path; it is given back. -/
def authority? (kind : SchemeKind) (text : List Char) (isAll : Bool) :
    Option (Authority × List Char) := do
  let (before, after) := (Text.splitLast? (· = '@') text).getD ([], text)
  if text = ['@'] && !isAll then none
  let (username, password) := credentials before
  let (hostText, rest) := cutHost false after
  if hostText.isEmpty && (!rest.isEmpty || kind ≠ .other) then none
  let host ←
    if hostText.isEmpty then some none
    else if kind = .other then (Host.ofOther? hostText).map some
    else (Host.ofSpecial? hostText).map some
  if host.isNone && !(username.isEmpty && password.isEmpty) then none
  let (port, rest) ← if rest.isEmpty then some (none, []) else port? kind (rest.drop 1)
  some ({ username, password, host, port }, rest)

/-- The host of a file. The local host need not be named. -/
def fileHost? (text : List Char) : Option (Option Host) :=
  if text.isEmpty then some none
  else (Host.ofSpecial? text).map fun host =>
    if host = .name "localhost".toList then none else some host

/-- The authority and the path of a file. -/
def file? (text : List Char) : Option (Authority × List Char) := do
  let isSlash := SchemeKind.file.isSlash
  let build (host : Option Host) (rest : List Char) : Authority × List Char :=
    let host := if Path.hasDrive isSlash rest then none else host
    ({ username := [], password := [], host, port := none }, Path.ofFile isSlash rest)
  match text with
  | a :: b :: rest =>
    if isSlash a && isSlash b then
      let (hostText, pathText) := rest.span fun c => !isSlash c
      if Path.isDriveLetter hostText then some (build none rest)
      else some (build (← fileHost? hostText) (pathText.drop 1))
    else some (build none (if isSlash a then b :: rest else text))
  | [a] => some (build none (if isSlash a then [] else [a]))
  | [] => some (build none [])

/-- The authority and the path of a URL that is not a file. -/
def authorityAndPath? (kind : SchemeKind) (text : List Char) (isAll : Bool) :
    Option (Authority × List Char) := do
  let (before, after) := text.span fun c => !kind.isSlash c
  let (authority, weird) ← authority? kind before (isAll && after.isEmpty)
  let pathText := weird ++ after
  let path :=
    match kind, pathText with
    | .other, [] => []
    | _, c :: rest => Path.ofSegments kind.isSlash (if kind.isSlash c then rest else pathText)
    | _, [] => Path.ofSegments kind.isSlash []
  some (authority, path)

/-- What follows the scheme, without query and fragment. -/
def body? (kind : SchemeKind) (text : List Char) (isAll : Bool) :
    Option (Option Authority × List Char) :=
  match kind with
  | .file => (file? text).map fun (a, path) => (some a, path)
  | .special _ =>
    (authorityAndPath? kind (text.dropWhile kind.isSlash) isAll).map
      fun (a, path) => (some a, path)
  | .other =>
    match text with
    | '/' :: '/' :: rest =>
      (authorityAndPath? kind rest isAll).map fun (a, path) => (some a, path)
    | '/' :: rest => some (none, Path.ofSegments kind.isSlash rest)
    | _ => some (none, Percent.encode EncodeSet.controls text)

def parse? (text : String) : Option Url := do
  let (scheme, rest) ← scheme? (clean text.toList)
  let kind := SchemeKind.ofScheme scheme
  let (rest, fragment) := Text.cut (· = '#') rest
  let (body, query) := Text.cut (· = '?') rest
  let (authority, path) ← body? kind body (query.isNone && fragment.isNone)
  some {
    scheme
    authority
    path
    query := query.map (Percent.encode kind.querySet)
    fragment := fragment.map (Percent.encode EncodeSet.fragment) }

end TransitFeed.Url
