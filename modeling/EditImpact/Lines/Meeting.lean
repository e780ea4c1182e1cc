import EditImpact.Lines.Grid

/-!
Where to divide a box of the grid: the searches from its two corners meet on a shortest path. A
search that takes long is cut short, at a promising place or else at the furthest one reached.
-/

namespace EditImpact.Lines

/-- A place that divides a box, and whether the parts before and behind it are to be searched to the
end. -/
structure Split where
  first : Int
  second : Int
  wholeBefore : Bool := true
  wholeAfter : Bool := true
  deriving DecidableEq, Repr

/-- How many equal lines in a row are a good sign. -/
def longRun : Nat := 20

/-- The number of steps after which a good sign may end a search. -/
def patience : Nat := 256

/-- A place behind the end of every text. -/
def beyond : Int := 1099511627776

/-- The lines of both texts that are compared. -/
structure Pairing (Line : Type) where
  old : Array Line
  new : Array Line

namespace Pairing

variable {Line : Type} [BEq Line] (pairing : Pairing Line)

def size : Nat := pairing.old.size + pairing.new.size

def equalAt (first second : Int) : Bool :=
  if first < 0 || second < 0 then false
  else
    match pairing.old[first.toNat]?, pairing.new[second.toNat]? with
    | some a, some b => a == b
    | _, _ => false

/-- Follows equal lines forward. -/
def slideForward (box : Box) : Nat → Int → Int → Int
  | 0, first, _ => first
  | fuel + 1, first, second =>
    if first < box.high1 && second < box.high2 && pairing.equalAt first second then
      slideForward box fuel (first + 1) (second + 1)
    else first

/-- Follows equal lines backward. -/
def slideBackward (box : Box) : Nat → Int → Int → Int
  | 0, first, _ => first
  | fuel + 1, first, second =>
    if box.low1 < first && box.low2 < second && pairing.equalAt (first - 1) (second - 1) then
      slideBackward box fuel (first - 1) (second - 1)
    else first

/-- What a step on all diagonals of a span came to: a meeting with the other search, or how far it
got and whether it followed a long run of equal lines. -/
inductive Swept where
  | met (first second : Int)
  | further (frontier : Frontier) (sawRun : Bool)

/-- One step forward on every diagonal of the span, from the highest down; stops where it meets the
backward search. -/
def sweepForward (box : Box) (meets : Int → Int → Bool) : Nat → Int → Bool → Frontier → Swept
  | 0, _, sawRun, frontier => .further frontier sawRun
  | count + 1, diagonal, sawRun, frontier =>
    let left := frontier.get (diagonal - 1)
    let right := frontier.get (diagonal + 1)
    let start := if right ≤ left then left + 1 else right
    let reached := pairing.slideForward box (pairing.old.size + 1) start (start - diagonal)
    if meets diagonal reached then .met reached (reached - diagonal)
    else
      sweepForward box meets count (diagonal - 2) (sawRun || (longRun : Int) < reached - start)
        (frontier.set diagonal reached)

/-- One step backward on every diagonal of the span. -/
def sweepBackward (box : Box) (meets : Int → Int → Bool) : Nat → Int → Bool → Frontier → Swept
  | 0, _, sawRun, frontier => .further frontier sawRun
  | count + 1, diagonal, sawRun, frontier =>
    let left := frontier.get (diagonal - 1)
    let right := frontier.get (diagonal + 1)
    let start := if left < right then left else right - 1
    let reached := pairing.slideBackward box (pairing.old.size + 1) start (start - diagonal)
    if meets diagonal reached then .met reached (reached - diagonal)
    else
      sweepBackward box meets count (diagonal - 2) (sawRun || (longRun : Int) < start - reached)
        (frontier.set diagonal reached)

/-- A place on a diagonal with a measure of how good it is. -/
structure Candidate where
  first : Int
  second : Int
  score : Int

/-- The best candidate above a bound, the first one of equals. -/
def bestAbove (bound : Int) (candidates : List Candidate) : Option Candidate :=
  candidates.foldl (fun best candidate =>
    if (match best with | some held => held.score | none => bound) < candidate.score then
      some candidate
    else best) none

/-- How far a place is from the corner where a search starts, less its distance from the middle
diagonal of that search. -/
def progress (fromFirst fromSecond offMiddle : Int) : Int :=
  fromFirst + fromSecond - (offMiddle.natAbs : Int)

/-- A forward place at the end of a long run and well ahead of its cost. -/
def promisingForward (box : Box) (cost : Nat) (span : Span) (frontier : Frontier) : Option Split :=
  let candidates := span.diagonals.filterMap fun diagonal =>
    let first := frontier.get diagonal
    let second := first - diagonal
    if box.low1 + longRun ≤ first && first < box.high1 && box.low2 + longRun ≤ second &&
        second < box.high2 &&
        (List.range longRun).all fun (n : Nat) => pairing.equalAt (first - n - 1) (second - n - 1) then
      some ⟨first, second, progress (first - box.low1) (second - box.low2)
        (diagonal - (box.low1 - box.low2))⟩
    else none
  (bestAbove (4 * cost) candidates).map fun best =>
    { first := best.first, second := best.second, wholeAfter := false }

/-- A backward place at the start of a long run and well ahead of its cost. -/
def promisingBackward (box : Box) (cost : Nat) (span : Span) (frontier : Frontier) : Option Split :=
  let candidates := span.diagonals.filterMap fun diagonal =>
    let first := frontier.get diagonal
    let second := first - diagonal
    if box.low1 < first && first ≤ box.high1 - longRun && box.low2 < second &&
        second ≤ box.high2 - longRun &&
        (List.range longRun).all fun (n : Nat) => pairing.equalAt (first + n) (second + n) then
      some ⟨first, second, progress (box.high1 - first) (box.high2 - second)
        (diagonal - (box.high1 - box.high2))⟩
    else none
  (bestAbove (4 * cost) candidates).map fun best =>
    { first := best.first, second := best.second, wholeBefore := false }

/-- The furthest place inside the box that one of the searches has reached. -/
def furthest (box : Box) (forwardSpan : Span) (forward : Frontier) (backwardSpan : Span)
    (backward : Frontier) : Split :=
  let ahead := forwardSpan.diagonals.map fun diagonal =>
    let first := min (min (forward.get diagonal) box.high1) (box.high2 + diagonal)
    (⟨first, first - diagonal, first + (first - diagonal) - (box.low1 + box.low2)⟩ : Candidate)
  let behind := backwardSpan.diagonals.map fun diagonal =>
    let first := max (max box.low1 (backward.get diagonal)) (box.low2 + diagonal)
    (⟨first, first - diagonal, box.high1 + box.high2 - (first + (first - diagonal))⟩ : Candidate)
  match bestAbove (-beyond) ahead, bestAbove (-beyond) behind with
  | some best, some other =>
    if other.score < best.score then
      { first := best.first, second := best.second, wholeAfter := false }
    else { first := other.first, second := other.second, wholeBefore := false }
  | _, _ => { first := box.low1, second := box.low2 }

/-- Where a search that need not go to the end is cut short, if it is. -/
def cutShort? (box : Box) (limit cost : Nat) (sawRun : Bool) (forwardSpan : Span)
    (forward : Frontier) (backwardSpan : Span) (backward : Frontier) : Option Split :=
  let promising :=
    if sawRun && patience < cost then
      pairing.promisingForward box cost forwardSpan forward <|>
        pairing.promisingBackward box cost backwardSpan backward
    else none
  match promising with
  | some split => some split
  | none =>
    if limit ≤ cost then some (furthest box forwardSpan forward backwardSpan backward) else none

/-- Searches from both corners until the paths meet, step by step; `limit` is the number of steps
that a search takes at most unless it goes to the end. -/
def meetingFrom (box : Box) (odd whole : Bool) (limit : Nat) :
    Nat → Nat → Span → Frontier → Span → Frontier → Option Split
  | 0, _, _, _, _, _ => none
  | fuel + 1, cost, forwardSpan, forward, backwardSpan, backward =>
    let forwardSpan' := forwardSpan.grow box
    let fenced := forward.fence forwardSpan forwardSpan' (-1)
    let meetsBackward := fun diagonal reached =>
      odd && backwardSpan.holds diagonal && backward.get diagonal ≤ reached
    match pairing.sweepForward box meetsBackward forwardSpan'.count forwardSpan'.high false fenced with
    | .met first second => some { first := first, second := second }
    | .further forward' sawRun =>
      let backwardSpan' := backwardSpan.grow box
      let fenced := backward.fence backwardSpan backwardSpan' beyond
      let meetsForward := fun diagonal reached =>
        !odd && forwardSpan'.holds diagonal && reached ≤ forward'.get diagonal
      match pairing.sweepBackward box meetsForward backwardSpan'.count backwardSpan'.high sawRun
          fenced with
      | .met first second => some { first := first, second := second }
      | .further backward' sawRun =>
        let cut :=
          if whole then none
          else
            pairing.cutShort? box limit cost sawRun forwardSpan' forward' backwardSpan' backward'
        match cut with
        | some split => some split
        | none =>
          meetingFrom box odd whole limit fuel (cost + 1) forwardSpan' forward' backwardSpan' backward'

/-- Where to divide a box. -/
def meeting (box : Box) (whole : Bool) (limit : Nat) : Option Split :=
  let forwardMiddle := box.low1 - box.low2
  let backwardMiddle := box.high1 - box.high2
  pairing.meetingFrom box ((forwardMiddle - backwardMiddle) % 2 != 0) whole limit
    (pairing.size + 2) 1
    ⟨forwardMiddle, forwardMiddle⟩ ((Frontier.make box (-1)).set forwardMiddle box.low1)
    ⟨backwardMiddle, backwardMiddle⟩ ((Frontier.make box beyond).set backwardMiddle box.high1)

/-- The box without the equal lines at its two corners. -/
def shrink (box : Box) : Box :=
  let fuel := pairing.old.size + 1
  let first := pairing.slideForward box fuel box.low1 box.low2
  let lower := { box with low1 := first, low2 := box.low2 + (first - box.low1) }
  let last := pairing.slideBackward lower fuel lower.high1 lower.high2
  { lower with high1 := last, high2 := lower.high2 - (lower.high1 - last) }

/-- The lines of both texts that a path through the box does not keep. -/
def changesIn (limit : Nat) : Nat → Bool → Box → List Int × List Int
  | 0, _, _ => ([], [])
  | fuel + 1, whole, outer =>
    let box := pairing.shrink outer
    let olds := (List.range (box.high1 - box.low1).toNat).map fun (n : Nat) => box.low1 + (n : Int)
    let news := (List.range (box.high2 - box.low2).toNat).map fun (n : Nat) => box.low2 + (n : Int)
    if box.low1 = box.high1 || box.low2 = box.high2 then (olds, news)
    else
      match pairing.meeting box whole limit with
      | none => (olds, news)
      | some split =>
        let before := changesIn limit fuel split.wholeBefore
          { box with high1 := split.first, high2 := split.second }
        let after := changesIn limit fuel split.wholeAfter
          { box with low1 := split.first, low2 := split.second }
        (before.1 ++ after.1, before.2 ++ after.2)

end Pairing

end EditImpact.Lines
