import EditImpact.Text.Blank
import EditImpact.Text.LetterCase

/-!
Paths with slashes. Empty segments and single dots do not count, so paths that differ in them are
equal; two dots are kept until a path is resolved.
-/

namespace EditImpact

/-- Where a path starts: two slashes at the front are a root of their own. -/
inductive PathRoot where
  | relative
  | slash
  | doubleSlash
  deriving DecidableEq, Repr

def PathRoot.text : PathRoot → String
  | .relative => ""
  | .slash => "/"
  | .doubleSlash => "//"

structure Path where
  root : PathRoot
  segments : List String
  deriving DecidableEq, Repr

namespace Path

/-- The segments between the slashes of a text. -/
def segmentsOf (text : List Char) : List String :=
  ((Text.splitBy (· == '/') text).map String.ofList).filter fun segment =>
    segment != "" && segment != "."

def rootOf : List Char → PathRoot
  | '/' :: '/' :: '/' :: _ => .slash
  | '/' :: '/' :: _ => .doubleSlash
  | '/' :: _ => .slash
  | _ => .relative

def ofString (text : String) : Path := ⟨rootOf text.toList, segmentsOf text.toList⟩

def joined (segments : List String) : String := "/".intercalate segments

def toString (path : Path) : String :=
  if path.root == .relative && path.segments.isEmpty then "."
  else path.root.text ++ joined path.segments

instance : ToString Path := ⟨toString⟩

def isAbsolute (path : Path) : Bool := path.root != .relative

/-- The last segment, empty for a bare root. -/
def name (path : Path) : String := path.segments.getLast?.getD ""

def parent (path : Path) : Path := { path with segments := path.segments.dropLast }

def child (path : Path) (name : String) : Path := { path with segments := path.segments ++ [name] }

/-- A path seen from another one; an absolute path stands for itself. -/
def join (base path : Path) : Path :=
  if path.isAbsolute then path else { base with segments := base.segments ++ path.segments }

/-- A segment holds the character that ends names for the system. -/
def hasNul (path : Path) : Bool := path.segments.any (·.toList.contains '\x00')

/-- Takes two dots as the way to the parent; above the root there is nothing. -/
def stepInto (visited : List String) (segment : String) : List String :=
  if segment == ".." then visited.dropLast else visited ++ [segment]

def resolve (path : Path) : Path := { path with segments := path.segments.foldl stepInto [] }

def afterSegments? : List String → List String → Option (List String)
  | [], segments => some segments
  | _ :: _, [] => none
  | a :: as, b :: bs => if a == b then afterSegments? as bs else none

/-- The rest of a path below a base, if it lies there. -/
def relativeTo? (path base : Path) : Option Path :=
  if path.root == base.root then (afterSegments? base.segments path.segments).map (⟨.relative, ·⟩)
  else none

/-- A name cut before its last dot; a dot at either end does not count. -/
def cutName (name : List Char) : List Char × List Char :=
  let ending := name.reverse.takeWhile (· != '.')
  let stem := (name.reverse.drop (ending.length + 1)).reverse
  if ending.isEmpty || stem.isEmpty then (name, []) else (stem, '.' :: ending.reverse)

def stem (path : Path) : String := String.ofList (cutName path.name.toList).1

/-- The part of the name from its last dot on. -/
def ending (path : Path) : String := String.ofList (cutName path.name.toList).2

def lowerEnding (path : Path) : String := String.ofList (Text.lower (cutName path.name.toList).2)

end Path

end EditImpact
