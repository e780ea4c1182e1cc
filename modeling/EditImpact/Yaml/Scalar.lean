import EditImpact.Decimal.Read
import EditImpact.Pattern.Build
import EditImpact.Pattern.Search
import EditImpact.Value.Basic

/-!
What an unquoted YAML word means: a null, a boolean, a number, or its own text.
-/

namespace EditImpact.Yaml

open Pattern

def nullWords : List String := ["", "~", "null", "Null", "NULL"]

def trueWords : List String := ["yes", "Yes", "YES", "true", "True", "TRUE", "on", "On", "ON"]

def falseWords : List String := ["no", "No", "NO", "false", "False", "FALSE", "off", "Off", "OFF"]

def signs : Pattern := opt (char (oneOf "-+"))

def digitRun : Pattern := many (char (setOf [.range '0' '9'] "_"))

def wholeText (pattern : Pattern) : Pattern := textStart ++ pattern ++ textEnd

def sixties : Pattern :=
  many1 (lit ":" ++ opt (char (setOf [.range '0' '5'] "")) ++ char (setOf [.range '0' '9'] ""))

/-- The forms of an integer: binary, octal, decimal, hexadecimal, and to the base sixty. -/
def integerForm : Pattern :=
  wholeText (signs ++ firstOf [
    lit "0b" ++ many1 (char (oneOf "01_")),
    lit "0" ++ many1 (char (setOf [.range '0' '7'] "_")),
    lit "0",
    lit "0x" ++ many1 (char (setOf [.range '0' '9', .range 'a' 'f', .range 'A' 'F'] "_")),
    char (setOf [.range '1' '9'] "") ++ digitRun ++ opt sixties])

def powerOfTen : Pattern :=
  opt (char (oneOf "eE") ++ char (oneOf "-+") ++ many1 (char (setOf [.range '0' '9'] "")))

def digit : Pattern := char (setOf [.range '0' '9'] "")

/-- The forms of a number with a point. -/
def floatForm : Pattern :=
  firstOf [
    wholeText (signs ++ digit ++ digitRun ++ lit "." ++ digitRun ++ powerOfTen),
    wholeText (lit "." ++ digit ++ digitRun ++ powerOfTen),
    wholeText (signs ++ digit ++ digitRun ++ sixties ++ lit "." ++ digitRun)]

def infinityForm : Pattern := wholeText (signs ++ lit "." ++ anyWord ["inf", "Inf", "INF"])

def notNumberForm : Pattern := wholeText (lit "." ++ anyWord ["nan", "NaN", "NAN"])

def hexValue (c : Char) : Nat :=
  if c.isDigit then c.toNat - '0'.toNat
  else if 'a' ≤ c && c ≤ 'f' then c.toNat - 'a'.toNat + 10
  else c.toNat - 'A'.toNat + 10

def inBase (base : Nat) (digits : List Char) : Nat :=
  digits.foldl (fun total c => total * base + hexValue c) 0

/-- The integer that a text of integer form is. -/
def integerValue (text : List Char) : Int :=
  let (negative, digits) := Decimal.splitSign (text.filter (· != '_'))
  let size : Nat :=
    match digits with
    | '0' :: 'b' :: binary => inBase 2 binary
    | '0' :: 'x' :: hexadecimal => inBase 16 hexadecimal
    | '0' :: octal => inBase 8 octal
    | decimal =>
      ((Text.splitBy (· == ':') decimal).map (inBase 10)).foldl (fun total n => total * 60 + n) 0
  if negative then -(size : Int) else size

/-- The double that a text of number form is. -/
def floatValue (text : List Char) : Float :=
  let (negative, digits) := Decimal.splitSign (text.filter (· != '_'))
  let parts := Text.splitBy (· == ':') digits
  let sum := parts.foldl
    (fun total part => total * 60 + (Decimal.readUnsigned? false part).getD 0) 0
  if negative then -sum else sum

/-- The value of an unquoted word. -/
def scalar (text : List Char) : Value :=
  let word := String.ofList text
  if nullWords.contains word then .null
  else if trueWords.contains word then .bool true
  else if falseWords.contains word then .bool false
  else if integerForm.occurs text then .int (integerValue text)
  else if infinityForm.occurs text then
    .float (if text.head? == some '-' then -(1.0 / 0.0) else 1.0 / 0.0)
  else if notNumberForm.occurs text then .float (0.0 / 0.0)
  else if floatForm.occurs text then .float (floatValue text)
  else .text word

end EditImpact.Yaml
