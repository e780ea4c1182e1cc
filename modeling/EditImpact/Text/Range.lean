/-!
Sets of code points given by tables: plain ranges, and runs that may take only every second code
point and carry a distance.
-/

namespace EditImpact.Text

/-- Membership in a list of inclusive ranges. -/
def inRanges (ranges : List (Nat × Nat)) (code : Nat) : Bool :=
  ranges.any fun range => range.1 ≤ code && code ≤ range.2

/-- Every `step`-th code point from `first` to `last`, with a distance for case mapping. -/
structure Run where
  first : Nat
  last : Nat
  step : Nat
  distance : Int

namespace Run

def contains (run : Run) (code : Nat) : Bool :=
  run.first ≤ code && code ≤ run.last && (code - run.first) % run.step == 0

end Run

def inRuns (runs : List Run) (code : Nat) : Bool :=
  runs.any (·.contains code)

end EditImpact.Text
