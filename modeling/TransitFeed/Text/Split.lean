/-! # Cutting text

A text is cut at every separator, at the first one or at the last one.
-/

namespace TransitFeed.Text

/-- The parts between the separators; there is one more part than there are separators. -/
def split (isSeparator : Char → Bool) : List Char → List (List Char)
  | [] => [[]]
  | c :: rest =>
    if isSeparator c then [] :: split isSeparator rest
    else match split isSeparator rest with
      | [] => [[c]]
      | part :: parts => (c :: part) :: parts

/-- The text before and after the last separator, if there is one. -/
def splitLast? (isSeparator : Char → Bool) : List Char → Option (List Char × List Char)
  | [] => none
  | c :: rest =>
    match splitLast? isSeparator rest with
    | some (before, after) => some (c :: before, after)
    | none => if isSeparator c then some ([], rest) else none

def join (separator : List Char) : List (List Char) → List Char
  | [] => []
  | [part] => part
  | part :: parts => part ++ separator ++ join separator parts

/-- The text before the first separator and, if there is one, the text after it. -/
def cut (isSeparator : Char → Bool) : List Char → List Char × Option (List Char)
  | [] => ([], none)
  | c :: rest =>
    if isSeparator c then ([], some rest)
    else
      let (before, after) := cut isSeparator rest
      (c :: before, after)

theorem split_ne_nil (isSeparator : Char → Bool) (text : List Char) :
    split isSeparator text ≠ [] := by
  cases text with
  | nil => simp [split]
  | cons c rest =>
    rw [split]
    split
    · simp
    · split <;> simp

end TransitFeed.Text
