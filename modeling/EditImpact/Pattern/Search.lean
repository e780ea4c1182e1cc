import EditImpact.Pattern.Basic

/-!
Looking for a pattern in a text: at one place, at the first place, and everywhere from left to
right.
-/

namespace EditImpact

/-- A place where a pattern matched: offsets of the read text, the text, and its captured part. -/
structure Match where
  start : Nat
  stop : Nat
  text : List Char
  captured : Option (List Char)
  deriving DecidableEq, Repr

namespace Match

/-- The captured part, empty when the pattern captured nothing. -/
def part (found : Match) : List Char := found.captured.getD []

end Match

namespace Pattern

/-- The preferred match that starts exactly at `cursor`. -/
def matchAt (pattern : Pattern) (cursor : Cursor) : Option Match :=
  pattern.run ⟨cursor, none⟩ fun reached =>
    some {
      start := cursor.offset
      stop := reached.cursor.offset
      text := cursor.rest.take (reached.cursor.offset - cursor.offset)
      captured := reached.captured }

/-- The first match at or after a place given by its last character, rest and offset. -/
def searchFrom (pattern : Pattern) : Option Char → List Char → Nat → Option Match
  | last, [], offset => pattern.matchAt ⟨last, [], offset⟩
  | last, c :: rest, offset =>
    pattern.matchAt ⟨last, c :: rest, offset⟩ <|> searchFrom pattern (some c) rest (offset + 1)

def search (pattern : Pattern) (text : List Char) : Option Match :=
  pattern.searchFrom none text 0

/-- The first match at or after `cursor`. -/
def searchAt (pattern : Pattern) (cursor : Cursor) : Option Match :=
  pattern.searchFrom cursor.last cursor.rest cursor.offset

/-- Whether the pattern matches somewhere. -/
def occurs (pattern : Pattern) (text : List Char) : Bool := (pattern.search text).isSome

/-- Whether the pattern matches at the start of the text. -/
def begins (pattern : Pattern) (text : List Char) : Option Match :=
  pattern.matchAt (Cursor.start text)

/-- Matches from left to right that do not overlap; none starts before offset `resume`. -/
def findAllFrom (pattern : Pattern) (resume : Nat) :
    Option Char → List Char → Nat → List Match
  | last, [], offset =>
    if offset < resume then [] else (pattern.matchAt ⟨last, [], offset⟩).toList
  | last, c :: rest, offset =>
    if offset < resume then findAllFrom pattern resume (some c) rest (offset + 1)
    else
      match pattern.matchAt ⟨last, c :: rest, offset⟩ with
      | none => findAllFrom pattern resume (some c) rest (offset + 1)
      | some found => found :: findAllFrom pattern found.stop (some c) rest (offset + 1)

def findAll (pattern : Pattern) (text : List Char) : List Match :=
  pattern.findAllFrom 0 none text 0

/-- The text with every match cut out; `found` lists the matches still ahead. -/
def eraseMatches : List Match → Nat → List Char → List Char
  | _, _, [] => []
  | [], _, text => text
  | found :: more, offset, c :: rest =>
    if offset < found.start then c :: eraseMatches (found :: more) (offset + 1) rest
    else if offset + 1 < found.stop then eraseMatches (found :: more) (offset + 1) rest
    else eraseMatches more (offset + 1) rest

def erase (pattern : Pattern) (text : List Char) : List Char :=
  eraseMatches (pattern.findAll text) 0 text

end Pattern

end EditImpact
