import EditImpact.Text.Blank

/-!
Which lines of a text an edit touched. Lines count from one; added and modified lines are lines of
the new text, removed lines are lines of the old one.
-/

namespace EditImpact

structure LineDelta where
  added : List Int := []
  removed : List Int := []
  modified : List Int := []
  deriving DecidableEq, Repr

namespace LineDelta

/-- Inserts a number into an increasing list unless it is there. -/
def insertSorted (n : Int) : List Int → List Int
  | [] => [n]
  | m :: rest => if n < m then n :: m :: rest else if n = m then m :: rest else m :: insertSorted n rest

/-- The numbers in increasing order, each once. -/
def sortedDistinct (numbers : List Int) : List Int := numbers.foldr insertSorted []

/-- The lines of the new text that are added or modified. -/
def changed (delta : LineDelta) : List Int := sortedDistinct (delta.added ++ delta.modified)

def size (delta : LineDelta) : Nat :=
  delta.added.length + delta.removed.length + delta.modified.length

def isEmpty (delta : LineDelta) : Bool := delta.size == 0

end LineDelta

/-- The line with the given number, counted from one. -/
def lineAt? (lines : List (List Char)) (number : Int) : Option (List Char) :=
  if 0 < number then lines[(number - 1).toNat]? else none

/-- The changed lines of a text, joined by newlines; every kind of line boundary ends a line. -/
def changedText (text : List Char) (delta : LineDelta) : List Char :=
  Text.joinWith ['\n'] (delta.changed.filterMap (lineAt? (Text.boundaryLines text)))

end EditImpact
