import TransitFeed.Text.Split
import TransitFeed.Url.Percent

/-! # Paths in URLs

A path is a row of segments with a slash in front of each. Segments of dots are resolved: one dot
stands for the segment itself and two dots for leaving the one before. A drive letter is never
left.
-/

namespace TransitFeed.Url

namespace Path

/-- Whether a segment is one dot, possibly encoded. -/
def isSingleDot (segment : List Char) : Bool :=
  [".", "%2e"].contains (String.ofList (segment.map Char.toLower))

/-- Whether a segment is two dots, possibly encoded. -/
def isDoubleDot (segment : List Char) : Bool :=
  ["..", "%2e.", ".%2e", "%2e%2e"].contains (String.ofList (segment.map Char.toLower))

/-- Whether a text is a letter followed by a colon or a bar. -/
def isDriveLetter : List Char → Bool
  | [c, mark] => c.isAlpha && (mark = ':' || mark = '|')
  | _ => false

/-- The segments, last one first, after one more segment. The text of an empty last segment ends
    in a slash. -/
def enter (inFile last : Bool) (segments : List (List Char)) (segment : List Char) :
    List (List Char) :=
  let encoded := Percent.encode EncodeSet.path segment
  if isDoubleDot encoded then
    let left :=
      match segments with
      | top :: below => if isDriveLetter top then segments else below
      | [] => []
    if last then [] :: left else left
  else if isSingleDot encoded then
    if last then [] :: segments else segments
  else if inFile && segments.isEmpty && isDriveLetter encoded then
    [encoded.take 1 ++ [':']]
  else encoded :: segments

/-- The segments, last one first, of the path that a row of segments describes. -/
def resolve (inFile : Bool) (segments : List (List Char)) : List (List Char) → List (List Char)
  | [] => segments
  | [segment] => enter inFile true segments segment
  | segment :: rest => resolve inFile (enter inFile false segments segment) rest

/-- The text of segments, last one first. -/
def text (segments : List (List Char)) : List Char :=
  segments.reverse.flatMap fun segment => '/' :: segment

/-- The path after its first slash. -/
def ofSegments (isSlash : Char → Bool) (rest : List Char) : List Char :=
  text (resolve false [] (Text.split isSlash rest))

/-- The path of a file after its first slash. More slashes in front of it mean nothing. -/
def ofFile (isSlash : Char → Bool) (rest : List Char) : List Char :=
  '/' :: (text (resolve true [] (Text.split isSlash rest))).dropWhile (· = '/')

/-- Whether a path of a file starts with a drive letter. -/
def hasDrive (isSlash : Char → Bool) (rest : List Char) : Bool :=
  go [] (Text.split isSlash rest)
where
  /-- Whether a drive letter is entered while there is no segment before it. -/
  go (segments : List (List Char)) : List (List Char) → Bool
    | [] => false
    | segment :: rest =>
      (segments.isEmpty && isDriveLetter segment) ||
        go (enter true rest.isEmpty segments segment) rest

end Path

end TransitFeed.Url
