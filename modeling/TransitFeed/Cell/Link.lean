import TransitFeed.Cell.Problem
import TransitFeed.Url.Parser

/-! # Cells with links

A link is an absolute URL. Reading a URL brings it to one form, so the text of the cell is kept
beside it and is what is written.
-/

namespace TransitFeed

/-- A URL and the text that it was read from. -/
structure Link where
  text : String
  url : Url
  parsed : Url.parse? text = some url
  deriving DecidableEq

namespace Link

/-- The link of a text that is an absolute URL. -/
def of? (text : String) : Option Link :=
  match h : Url.parse? text with
  | some url => some ⟨text, url, h⟩
  | none => none

end Link

namespace Cell.LinkCell

/-- The link of a cell that is not empty. -/
def read (cell : String) : Reading (Option Link) :=
  match Link.of? cell with
  | some link => ⟨some link, []⟩
  | none => ⟨none, [.link]⟩

def text (link : Option Link) : String := link.elim "" Link.text

end Cell.LinkCell

end TransitFeed
