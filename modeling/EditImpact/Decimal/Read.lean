import EditImpact.Text.LetterCase

/-!
Doubles read from decimal text.
-/

namespace EditImpact.Decimal

def digitsValue (digits : List Char) : Nat :=
  digits.foldl (fun total c => total * 10 + (c.toNat - '0'.toNat)) 0

/-- The double next to a decimal number. -/
def fromParts (negative : Bool) (whole fraction : List Char) (exponent : Int) : Float :=
  let shift := exponent - fraction.length
  let size := Float.ofScientific (digitsValue (whole ++ fraction)) (shift < 0) shift.natAbs
  if negative then -size else size

/-- A sign in front of a text, which is negative or not. -/
def splitSign : List Char → Bool × List Char
  | '-' :: rest => (true, rest)
  | '+' :: rest => (false, rest)
  | text => (false, text)

/-- The exponent that a text is, after its letter; none if it is malformed. -/
def exponentOf? (text : List Char) : Option Int :=
  match text with
  | [] => some 0
  | letter :: rest =>
    let (negative, digits) := splitSign rest
    if (letter == 'e' || letter == 'E') && !digits.isEmpty && digits.all Char.isDigit then
      some (if negative then -(digitsValue digits : Int) else digitsValue digits)
    else none

/-- A number with a point and an exponent, both of which may be missing. -/
def readUnsigned? (negative : Bool) (text : List Char) : Option Float :=
  let (whole, rest) := text.span Char.isDigit
  let (fraction, rest) :=
    match rest with
    | '.' :: further => further.span Char.isDigit
    | _ => ([], rest)
  if whole.isEmpty && fraction.isEmpty then none
  else (exponentOf? rest).map (fromParts negative whole fraction)

/-- Reads a whole text as a double. The words for infinity and not-a-number count, in any case. -/
def read? (text : List Char) : Option Float :=
  let (negative, unsigned) := splitSign text
  let word := String.ofList (Text.lower unsigned)
  if word == "inf" || word == "infinity" then
    some (if negative then -(1.0 / 0.0) else 1.0 / 0.0)
  else if word == "nan" then some (0.0 / 0.0)
  else readUnsigned? negative unsigned

end EditImpact.Decimal
