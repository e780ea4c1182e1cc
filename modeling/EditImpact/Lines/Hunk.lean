import EditImpact.LineDelta

/-!
Hunks of a line diff, and the line delta they add up to. In a hunk, removed lines directly followed
by added lines are paired one by one as modified lines; what is left over on either side stays
removed or added.
-/

namespace EditImpact.Lines

/-- One line of a hunk with its number in the text it belongs to. -/
inductive HunkLine where
  | kept
  | removed (line : Int)
  | added (line : Int)
  deriving DecidableEq, Repr

abbrev Hunk := List HunkLine

/-- Lines gathered so far, and the removed and added lines that still wait to be paired. -/
structure Gathered where
  delta : LineDelta := {}
  minus : List Int := []
  plus : List Int := []
  deriving DecidableEq, Repr

namespace Gathered

/-- Pairs what waits. -/
def flush (gathered : Gathered) : Gathered :=
  let paired := min gathered.minus.length gathered.plus.length
  { delta :=
      { added := gathered.delta.added ++ gathered.plus.drop paired
        removed := gathered.delta.removed ++ gathered.minus.drop paired
        modified := gathered.delta.modified ++ gathered.plus.take paired } }

def feed (gathered : Gathered) : HunkLine → Gathered
  | .kept => gathered.flush
  | .removed line =>
    let settled := if gathered.plus.isEmpty then gathered else gathered.flush
    { settled with minus := settled.minus ++ [line] }
  | .added line => { gathered with plus := gathered.plus ++ [line] }

def feedHunk (gathered : Gathered) (hunk : Hunk) : Gathered := (hunk.foldl feed gathered).flush

end Gathered

/-- The line delta of a sequence of hunks, each list increasing and without repetitions. -/
def deltaOfHunks (hunks : List Hunk) : LineDelta :=
  let delta := (hunks.foldl Gathered.feedHunk {}).delta
  { added := LineDelta.sortedDistinct delta.added
    removed := LineDelta.sortedDistinct delta.removed
    modified := LineDelta.sortedDistinct delta.modified }

end EditImpact.Lines
