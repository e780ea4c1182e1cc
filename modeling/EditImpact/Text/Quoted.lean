import EditImpact.Text.Printable

/-!
Texts as they are quoted in messages: between single quotes, or between double quotes if the text
holds a single quote and no double one. What cannot be printed is escaped.
-/

namespace EditImpact.Text

def hexChar (n : Nat) : Char := Char.ofNat (if n < 10 then '0'.toNat + n else 'a'.toNat + n - 10)

/-- A number in hexadecimal with a fixed number of digits. -/
def hexDigits : Nat → Nat → List Char
  | 0, _ => []
  | count + 1, n => hexDigits count (n / 16) ++ [hexChar (n % 16)]

/-- An escape with two, four or eight digits, as few as hold the code. -/
def codeEscape (code : Nat) : List Char :=
  if code < 0x100 then ['\\', 'x'] ++ hexDigits 2 code
  else if code < 0x10000 then ['\\', 'u'] ++ hexDigits 4 code
  else ['\\', 'U'] ++ hexDigits 8 code

def quoteChar (quote c : Char) : List Char :=
  if c == quote || c == '\\' then ['\\', c]
  else if c == '\n' then ['\\', 'n']
  else if c == '\r' then ['\\', 'r']
  else if c == '\t' then ['\\', 't']
  else if isPrintable c then [c]
  else codeEscape c.toNat

def quoted (text : List Char) : List Char :=
  let quote := if text.contains '\'' && !text.contains '"' then '"' else '\''
  [quote] ++ text.flatMap (quoteChar quote) ++ [quote]

end EditImpact.Text
