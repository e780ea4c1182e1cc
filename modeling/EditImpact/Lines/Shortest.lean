import EditImpact.Lines.Diff
import EditImpact.Lines.Marks
import EditImpact.Lines.Meeting

/-!
A patch with few hunks. Common lines at both ends are set aside, lines without a partner on the
other side are marked at once, and the rest is divided at the middle of a shortest path through the
grid of line pairs, again and again. The marks of both texts are then read side by side.
-/

namespace EditImpact.Lines

/-- A power of two near the square root. -/
def nearRoot : Nat → Nat → Nat
  | 0, _ => 1
  | fuel + 1, n => if n = 0 then 1 else 2 * nearRoot fuel (n / 4)

def rootOf (n : Nat) : Nat := nearRoot (n + 1) n

/-- How a line is matched on the other side. -/
inductive Partners where
  | none
  | some
  | many
  deriving DecidableEq, Repr

def partnersOf (limit count : Nat) : Partners :=
  if count = 0 then .none else if limit ≤ count then .many else .some

/-- Counts lines without partners and lines with many, up to the first other line. -/
def surroundings : List Partners → Nat × Nat
  | [] => (0, 0)
  | .some :: _ => (0, 0)
  | .none :: rest =>
    match surroundings rest with
    | (lonely, crowded) => (lonely + 1, crowded)
  | .many :: rest =>
    match surroundings rest with
    | (lonely, crowded) => (lonely, crowded + 1)

/-- Whether a line with many partners stands among lines without any, looking at up to 100 lines on
either side. -/
def isDrowned (before after : List Partners) : Bool :=
  let (noneBefore, manyBefore) := surroundings (before.take 100)
  let (noneAfter, manyAfter) := surroundings (after.take 100)
  let lonely := noneBefore + noneAfter
  let crowded := manyBefore + 1 + (manyAfter + 1)
  noneBefore ≠ 0 && noneAfter ≠ 0 && crowded * 4 < crowded + lonely

/-- Which lines take part in the search; `before` holds the lines already seen, nearest first. -/
def takesPart (before : List Partners) : List Partners → List Bool
  | [] => []
  | partners :: after =>
    (match partners with
      | .none => false
      | .some => true
      | .many => !isDrowned before after) :: takesPart (partners :: before) after

/-- How many leading items two lists share. -/
def commonStart {Line : Type} [BEq Line] : List Line → List Line → Nat
  | a :: as, b :: bs => if a == b then commonStart as bs + 1 else 0
  | _, _ => 0

/-- Positions with the lines that take part, and marks for those that do not. -/
def selected {Line : Type} (start : Nat) (lines : List Line) (part : List Bool) :
    List (Nat × Line) × List Nat :=
  let numbered := (lines.zip part).zipIdx start
  (numbered.filterMap fun ((line, takes), index) => if takes then some (index, line) else none,
    numbered.filterMap fun ((_, takes), index) => if takes then none else some index)

def markAll {Line : Type} (side : Side Line) (indices : List Nat) : Side Line :=
  indices.foldl (fun side index => side.mark index true) side

/-- Both texts with the lines of a short edit marked, groups of marks in their final place. -/
def shortestMarks {Line : Type} [BEq Line] (old new : List Line) : Side Line × Side Line :=
  let start := commonStart old new
  let restOld := old.drop start
  let restNew := new.drop start
  let ending := commonStart restOld.reverse restNew.reverse
  let middleOld := restOld.take (restOld.length - ending)
  let middleNew := restNew.take (restNew.length - ending)
  let partnersOld := middleOld.map fun line => partnersOf (min (rootOf old.length) 1024) (new.count line)
  let partnersNew := middleNew.map fun line => partnersOf (min (rootOf new.length) 1024) (old.count line)
  let (keptOld, lostOld) := selected start middleOld (takesPart [] partnersOld)
  let (keptNew, lostNew) := selected start middleNew (takesPart [] partnersNew)
  let box : Box := ⟨0, keptOld.length, 0, keptNew.length⟩
  let pairing : Pairing Line := ⟨(keptOld.map (·.2)).toArray, (keptNew.map (·.2)).toArray⟩
  let changes := pairing.changesIn (max patience (rootOf (pairing.size + 3))) (pairing.size + 2) false box
  let indexOld := (keptOld.map (·.1)).toArray
  let indexNew := (keptNew.map (·.1)).toArray
  let markedOld := markAll (Side.plain old)
    (lostOld ++ changes.1.filterMap fun n => indexOld[n.toNat]?)
  let markedNew := markAll (Side.plain new)
    (lostNew ++ changes.2.filterMap fun n => indexNew[n.toNat]?)
  let finalOld := compact markedOld markedNew
  (finalOld, compact markedNew finalOld)

/-- The items that are not marked. -/
def unmarked {Line : Type} : List Line → List Bool → List Line
  | [], _ => []
  | line :: lines, [] => line :: lines
  | line :: lines, mark :: marks => if mark then unmarked lines marks else line :: unmarked lines marks

/-- Reads marks of both texts side by side: marked old lines are removed, marked new lines are
added, unmarked ones advance together and end a hunk. `oldLine` and `newLine` are the numbers of the
next lines. -/
def hunksFrom : Nat → Int → Int → List Bool → List Bool → Hunk → List Hunk
  | 0, _, _, _, _, current => [current]
  | fuel + 1, oldLine, newLine, true :: olds, news, current =>
    hunksFrom fuel (oldLine + 1) newLine olds news (current ++ [.removed oldLine])
  | fuel + 1, oldLine, newLine, olds, true :: news, current =>
    hunksFrom fuel oldLine (newLine + 1) olds news (current ++ [.added newLine])
  | fuel + 1, oldLine, newLine, _ :: olds, _ :: news, current =>
    current :: hunksFrom fuel (oldLine + 1) (newLine + 1) olds news []
  | _ + 1, _, _, _, _, current => [current]

/-- The hunks of a pair of marks, without empty ones. -/
def hunksOf (olds news : List Bool) : List Hunk :=
  (hunksFrom (olds.length + news.length + 1) 1 1 olds news []).filter (!·.isEmpty)

/-- Marks of a short edit if they pass the check, else everything removed and added. -/
def editMarks (old new : List (List Char)) : List Bool × List Bool :=
  let (oldSide, newSide) := shortestMarks old new
  let olds := oldSide.marks.toList
  let news := newSide.marks.toList
  if olds.length == old.length && news.length == new.length &&
      unmarked old olds == unmarked new news then (olds, news)
  else (old.map fun _ => true, new.map fun _ => true)

/-- The patch of a short edit; there is none where a text is binary. -/
def shortestPatch : Patcher := fun before after =>
  if isBinary before || isBinary after then []
  else
    let (olds, news) := editMarks (terminatedLines before) (terminatedLines after)
    hunksOf olds news

end EditImpact.Lines
