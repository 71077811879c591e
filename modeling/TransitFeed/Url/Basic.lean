import TransitFeed.Url.Host
import TransitFeed.Url.Path

/-! # Absolute URLs

A URL in its one form: scheme, authority, path, query and fragment. Two texts that mean the same
URL are written the same way.
-/

namespace TransitFeed

namespace Url

/-- Who is asked, and where. -/
structure Authority where
  username : List Char
  password : List Char
  /-- Nothing for an empty host. -/
  host : Option Host
  /-- Nothing for the port that belongs to the scheme. -/
  port : Option Nat
  deriving Repr, DecidableEq

namespace Authority

/-- The text of a user name and a password. -/
def credentials (a : Authority) : List Char :=
  if a.username.isEmpty && a.password.isEmpty then []
  else if a.password.isEmpty then a.username ++ ['@']
  else a.username ++ ':' :: a.password ++ ['@']

def text (a : Authority) : List Char :=
  a.credentials ++ (a.host.elim [] Host.text) ++ (a.port.elim [] fun p => ':' :: Digits.ofNat p)

end Authority

end Url

/-- An absolute URL. -/
structure Url where
  scheme : List Char
  authority : Option Url.Authority
  path : List Char
  query : Option (List Char)
  fragment : Option (List Char)
  deriving Repr, DecidableEq

namespace Url

/-- The authority with its slashes. A path that starts with two slashes and has no authority before
    it gets a dot in front, so that it is not taken for one. -/
def authorityText (url : Url) : List Char :=
  match url.authority with
  | some a => '/' :: '/' :: a.text
  | none => if ['/', '/'].isPrefixOf url.path then ['/', '.'] else []

def href (url : Url) : String :=
  String.ofList (url.scheme ++ ':' :: url.authorityText ++ url.path ++
    (url.query.elim [] ('?' :: ·)) ++ (url.fragment.elim [] ('#' :: ·)))

/-- The text of the host, if there is one. -/
def hostText? (url : Url) : Option String :=
  (url.authority.bind (·.host)).map fun host => String.ofList host.text

end Url

end TransitFeed
