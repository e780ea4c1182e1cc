import EditImpact.Text.Utf8

/-!
Texts as callers hand them over. Unlike a text that was decoded, such a text may hold halves of
surrogate pairs that stand alone, and then it cannot be written as bytes.
-/

namespace EditImpact.Text

/-- A character, or half of a surrogate pair that stands alone, by its distance from the first. -/
inductive CodePoint where
  | char (c : Char)
  | half (distance : Fin 2048)
  deriving DecidableEq, Repr

abbrev Given := List CodePoint

def given (text : List Char) : Given := text.map .char

/-- Halves in a row within a text: where the first of them stands, its code, and how many they
are. -/
structure Halves where
  start : Nat
  first : Nat
  count : Nat
  deriving DecidableEq, Repr

def CodePoint.isHalf : CodePoint → Bool
  | char _ => false
  | half _ => true

def charactersFrom (position : Nat) : Given → Except Halves (List Char)
  | [] => .ok []
  | .char c :: rest => (charactersFrom (position + 1) rest).map (c :: ·)
  | .half distance :: rest =>
    .error ⟨position, 0xD800 + distance, (rest.takeWhile (·.isHalf)).length + 1⟩

/-- The characters of a text, or the first halves that stand in the way. -/
def characters (text : Given) : Except Halves (List Char) := charactersFrom 0 text

end EditImpact.Text
