import EditImpact.Lines.Hunk

/-!
The line delta between two texts, given how they are compared line by line. Lines end at newlines
only, and a last line without one differs from the same line with one.
-/

namespace EditImpact.Lines

/-- The lines of a text, each with its newline. -/
def terminatedLines : List Char → List (List Char)
  | [] => []
  | c :: rest =>
    if c == '\n' then [c] :: terminatedLines rest
    else
      match terminatedLines rest with
      | [] => [[c]]
      | line :: lines => (c :: line) :: lines

/-- Whether a text counts as binary: a NUL among its first 8000 bytes. -/
def isBinaryWithin : Nat → List Char → Bool
  | _, [] => false
  | bytes, c :: rest =>
    if bytes = 0 then false
    else if c.toNat = 0 then true
    else isBinaryWithin (bytes - c.utf8Size) rest

def isBinary (text : List Char) : Bool := isBinaryWithin 8000 text

/-- Compares two texts line by line and tells what differs, hunk by hunk. -/
abbrev Patcher := List Char → List Char → List Hunk

/-- The lines that differ between two texts. -/
def delta (patch : Patcher) (before after : List Char) : LineDelta :=
  if before == after then {} else deltaOfHunks (patch before after)

end EditImpact.Lines
