import Std.Data.TreeMap.Basic

/-! # String pool

Equal texts of a session are one instance. Instances are numbered in the order in which their texts
first appeared.
-/

namespace TransitFeed

/-- The distinct texts of a session with the numbers of their instances. -/
structure Pool where
  instances : Std.TreeMap String Nat := ∅

namespace Pool

def size (p : Pool) : Nat := p.instances.size

/-- The instance of a text that has appeared. -/
def get? (p : Pool) (text : String) : Option Nat := p.instances.get? text

def contains (p : Pool) (text : String) : Bool := p.instances.contains text

/-- The instance of a text, and the pool in which the text has appeared. A new text is a new
    instance. -/
def share (p : Pool) (text : String) : Nat × Pool :=
  match p.get? text with
  | some known => (known, p)
  | none => (p.size, ⟨p.instances.insert text p.size⟩)

/-- The pool in which a text has appeared. -/
def intern (p : Pool) (text : String) : Pool := (p.share text).2

/-- The instances of texts that are shared one after the other, and the pool then. -/
def shareAll (p : Pool) : List String → List Nat × Pool
  | [] => ([], p)
  | text :: rest =>
    let (first, p) := p.share text
    let (others, p) := p.shareAll rest
    (first :: others, p)

end Pool

end TransitFeed
