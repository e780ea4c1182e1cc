/-!
The grid of line pairs of two texts, and how far a search through it has come on each diagonal.
-/

namespace EditImpact.Lines

/-- A part of the grid: lines `low1` to `high1` of the old text against `low2` to `high2` of the
new one. -/
structure Box where
  low1 : Int
  high1 : Int
  low2 : Int
  high2 : Int
  deriving DecidableEq, Repr

/-- The furthest old line reached on each diagonal. -/
structure Frontier where
  values : Array Int
  offset : Int

namespace Frontier

def make (box : Box) (fallback : Int) : Frontier :=
  let diagonals := (box.high1 - box.low1) + (box.high2 - box.low2) + 5
  ⟨Array.replicate diagonals.toNat fallback, 2 - (box.low1 - box.high2)⟩

def get (frontier : Frontier) (diagonal : Int) : Int :=
  frontier.values.getD (diagonal + frontier.offset).toNat 0

def set (frontier : Frontier) (diagonal value : Int) : Frontier :=
  { frontier with
    values := frontier.values.setIfInBounds (diagonal + frontier.offset).toNat value }

end Frontier

/-- The diagonals in use. -/
structure Span where
  low : Int
  high : Int
  deriving DecidableEq, Repr

/-- The span one step later; at the border of the grid it shrinks instead of growing. -/
def Span.grow (span : Span) (box : Box) : Span :=
  { low := if box.low1 - box.high2 < span.low then span.low - 1 else span.low + 1
    high := if span.high < box.high1 - box.low2 then span.high + 1 else span.high - 1 }

def Span.holds (span : Span) (diagonal : Int) : Bool := span.low ≤ diagonal && diagonal ≤ span.high

/-- Marks the diagonals just outside a span that has grown as not reached. -/
def Frontier.fence (frontier : Frontier) (before after : Span) (value : Int) : Frontier :=
  let lowered := if after.low < before.low then frontier.set (after.low - 1) value else frontier
  if before.high < after.high then lowered.set (after.high + 1) value else lowered

def Span.count (span : Span) : Nat := ((span.high - span.low) / 2 + 1).toNat

/-- The diagonals of a span that are searched together, from the highest down. -/
def Span.diagonals (span : Span) : List Int :=
  (List.range span.count).map fun (n : Nat) => span.high - 2 * (n : Int)

end EditImpact.Lines
