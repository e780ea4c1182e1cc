/-!
Two texts as lines, each line marked as changed or not. The marks are consistent when the unmarked
lines of both sides are the same; then they describe an edit from one text to the other.
-/

namespace EditImpact.Lines

/-- The lines of one text with a mark for each. -/
structure Side (Line : Type) where
  lines : Array Line
  marks : Array Bool

namespace Side

variable {Line : Type}

def plain (lines : List Line) : Side Line :=
  ⟨lines.toArray, Array.replicate lines.length false⟩

/-- Marks past either end are unset. -/
def isMarked (side : Side Line) (index : Nat) : Bool := side.marks.getD index false

def mark (side : Side Line) (index : Nat) (value : Bool) : Side Line :=
  { side with marks := side.marks.setIfInBounds index value }

/-- Whether two places hold equal lines. -/
def same [BEq Line] (side : Side Line) (first second : Nat) : Bool :=
  match side.lines[first]?, side.lines[second]? with
  | some a, some b => a == b
  | _, _ => false

/-- The end of the run of marked lines that starts at `index`. -/
def runEnd (side : Side Line) : Nat → Nat → Nat
  | 0, index => index
  | fuel + 1, index => if side.isMarked index then side.runEnd fuel (index + 1) else index

/-- The start of the run of marked lines that ends before `index`. -/
def runStart (side : Side Line) : Nat → Nat
  | 0 => 0
  | index + 1 => if side.isMarked index then side.runStart index else index + 1

end Side

/-- A run of marked lines from `first` up to, not including, `last`; it may be empty. -/
structure Group where
  first : Nat
  last : Nat
  deriving DecidableEq, Repr

namespace Group

variable {Line : Type}

def isEmpty (group : Group) : Bool := group.first == group.last

def initial (side : Side Line) : Group := ⟨0, side.runEnd (side.lines.size + 1) 0⟩

/-- The group after the next unmarked line. -/
def next? (side : Side Line) (group : Group) : Option Group :=
  if side.lines.size ≤ group.last then none
  else some ⟨group.last + 1, side.runEnd (side.lines.size + 1) (group.last + 1)⟩

/-- The group before the unmarked line in front. -/
def previous? (side : Side Line) (group : Group) : Option Group :=
  if group.first = 0 then none
  else some ⟨side.runStart (group.first - 1), group.first - 1⟩

/-- Moves a group one line down if the line behind it equals its first line, joining a group it
runs into. -/
def slideDown? [BEq Line] (side : Side Line) (group : Group) : Option (Side Line × Group) :=
  if group.last < side.lines.size && side.same group.first group.last then
    let moved := (side.mark group.first false).mark group.last true
    some (moved, ⟨group.first + 1, moved.runEnd (side.lines.size + 1) (group.last + 1)⟩)
  else none

/-- Moves a group one line up if the line before it equals its last line, joining a group it runs
into. -/
def slideUp? [BEq Line] (side : Side Line) (group : Group) : Option (Side Line × Group) :=
  if 0 < group.first && side.same (group.first - 1) (group.last - 1) then
    let moved := (side.mark (group.first - 1) true).mark (group.last - 1) false
    some (moved, ⟨moved.runStart (group.first - 1), group.last - 1⟩)
  else none

end Group

/-- A group that is being moved in one text, in step with a group of the other text. -/
structure Moving (Line : Type) where
  side : Side Line
  group : Group
  other : Side Line
  otherGroup : Group

namespace Moving

variable {Line : Type} [BEq Line]

def up? (moving : Moving Line) : Option (Moving Line) := do
  let (side, group) ← Group.slideUp? moving.side moving.group
  let otherGroup ← Group.previous? moving.other moving.otherGroup
  some { moving with side := side, group := group, otherGroup := otherGroup }

def down? (moving : Moving Line) : Option (Moving Line) := do
  let (side, group) ← Group.slideDown? moving.side moving.group
  let otherGroup ← Group.next? moving.other moving.otherGroup
  some { moving with side := side, group := group, otherGroup := otherGroup }

def upAll : Nat → Moving Line → Moving Line
  | 0, moving => moving
  | fuel + 1, moving =>
    match moving.up? with
    | some moved => upAll fuel moved
    | none => moving

/-- Moves down as far as possible and tells whether the group stood beside a group of the other
text on the way, its first place included. -/
def downAll : Nat → Bool → Moving Line → Bool × Moving Line
  | 0, aligned, moving => (aligned, moving)
  | fuel + 1, aligned, moving =>
    match moving.down? with
    | some moved => downAll fuel (aligned || !moved.otherGroup.isEmpty) moved
    | none => (aligned, moving)

/-- Up and down until the group joins no further group: whether it met a group of the other text,
and the end of its highest place. -/
def settle : Nat → Moving Line → Bool × Nat × Moving Line
  | 0, moving => (false, moving.group.last, moving)
  | fuel + 1, moving =>
    let size := moving.group.last - moving.group.first
    let limit := moving.side.lines.size + 1
    let top := upAll limit moving
    let (aligned, bottom) := downAll limit (!top.otherGroup.isEmpty) top
    if bottom.group.last - bottom.group.first = size then (aligned, top.group.last, bottom)
    else settle fuel bottom

/-- Back up to the nearest place beside a group of the other text. -/
def alignUp : Nat → Moving Line → Moving Line
  | 0, moving => moving
  | fuel + 1, moving =>
    if moving.otherGroup.isEmpty then
      match moving.up? with
      | some moved => alignUp fuel moved
      | none => moving
    else moving

/-- Settles one group: as far down as possible, unless it can stand beside a group of the other
text. -/
def place (moving : Moving Line) : Moving Line :=
  if moving.group.isEmpty then moving
  else
    let limit := moving.side.lines.size + 1
    let (aligned, earliest, bottom) := settle limit moving
    if bottom.group.last ≠ earliest && aligned then alignUp limit bottom else bottom

def placeAll : Nat → Moving Line → Side Line
  | 0, moving => moving.side
  | fuel + 1, moving =>
    let placed := moving.place
    match Group.next? placed.side placed.group, Group.next? placed.other placed.otherGroup with
    | some group, some otherGroup =>
      placeAll fuel { placed with group := group, otherGroup := otherGroup }
    | _, _ => placed.side

end Moving

/-- Moves every group of marked lines of one side to its final place. -/
def compact {Line : Type} [BEq Line] (side other : Side Line) : Side Line :=
  Moving.placeAll (side.lines.size + 1) ⟨side, Group.initial side, other, Group.initial other⟩

end EditImpact.Lines
