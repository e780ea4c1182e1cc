import EditImpact.Decimal.Shortest
import EditImpact.Value.Basic

/-!
Values as JSON text. The reader accepts any JSON text and the three number words for infinities and
not-a-number; a later field of the same name takes the place of an earlier one. The writers escape
everything outside printable ASCII, one on a single line and one indented by two spaces.
-/

namespace EditImpact.Json

def isJsonBlank (c : Char) : Bool := c == ' ' || c == '\n' || c == '\r' || c == '\t'

def skipBlanks (text : List Char) : List Char := text.dropWhile isJsonBlank

def hexDigit? (c : Char) : Option Nat :=
  if '0' ≤ c && c ≤ '9' then some (c.toNat - '0'.toNat)
  else if 'a' ≤ c && c ≤ 'f' then some (c.toNat - 'a'.toNat + 10)
  else if 'A' ≤ c && c ≤ 'F' then some (c.toNat - 'A'.toNat + 10)
  else none

def hex4? (a b c d : Char) : Option Nat := do
  let a ← hexDigit? a
  let b ← hexDigit? b
  let c ← hexDigit? c
  let d ← hexDigit? d
  some (((a * 16 + b) * 16 + c) * 16 + d)

/-- The character of a one-letter escape. -/
def plainEscape? : Char → Option Char
  | '"' => some '"'
  | '\\' => some '\\'
  | '/' => some '/'
  | 'b' => some (Char.ofNat 8)
  | 'f' => some (Char.ofNat 12)
  | 'n' => some '\n'
  | 'r' => some '\r'
  | 't' => some '\t'
  | _ => none

def isHighHalf (code : Nat) : Bool := 0xD800 ≤ code && code < 0xDC00

def isLowHalf (code : Nat) : Bool := 0xDC00 ≤ code && code < 0xE000

/-- One character of a code unit; a lone half of a pair has none and becomes the replacement
character. -/
def unitChar (code : Nat) : Char :=
  if isHighHalf code || isLowHalf code then Char.ofNat 0xFFFD else Char.ofNat code

/-- The characters of a sequence of code units, two halves of a pair being one character. -/
def joinHalves : List Nat → List Char
  | [] => []
  | [code] => [unitChar code]
  | high :: low :: rest =>
    if isHighHalf high && isLowHalf low then
      Char.ofNat (0x10000 + (high - 0xD800) * 0x400 + (low - 0xDC00)) :: joinHalves rest
    else unitChar high :: joinHalves (low :: rest)

/-- The code units of a string after its opening quote, and what follows the closing one. -/
def readUnits : List Char → Option (List Nat × List Char)
  | [] => none
  | '"' :: rest => some ([], rest)
  | '\\' :: 'u' :: a :: b :: c :: d :: rest =>
    match hex4? a b c d with
    | none => none
    | some code => (readUnits rest).map fun (codes, left) => (code :: codes, left)
  | '\\' :: c :: rest =>
    match plainEscape? c with
    | none => none
    | some escaped => (readUnits rest).map fun (codes, left) => (escaped.toNat :: codes, left)
  | c :: rest =>
    if c.toNat < 32 || c == '\\' then none
    else (readUnits rest).map fun (codes, left) => (c.toNat :: codes, left)

/-- The text of a string after its opening quote, and what follows the closing one. -/
def readString (source : List Char) : Option (List Char × List Char) :=
  (readUnits source).map fun (codes, left) => (joinHalves codes, left)

def natOf (digits : List Char) : Nat :=
  digits.foldl (fun total c => total * 10 + (c.toNat - '0'.toNat)) 0

/-- Leading digits and the rest. -/
def digitsOf (text : List Char) : List Char × List Char := text.span Char.isDigit

/-- A double from its decimal parts. -/
def floatOf (negative : Bool) (whole fraction : List Char) (exponent : Int) : Float :=
  let mantissa := natOf (whole ++ fraction)
  let shift := exponent - fraction.length
  let size := Float.ofScientific mantissa (shift < 0) shift.natAbs
  if negative then -size else size

/-- The exponent after an `e`, with the text behind it. -/
def readExponent (text : List Char) : Option (Int × List Char) :=
  match text with
  | c :: rest =>
    if c == 'e' || c == 'E' then
      let (negative, unsigned) :=
        match rest with
        | '-' :: unsigned => (true, unsigned)
        | '+' :: unsigned => (false, unsigned)
        | _ => (false, rest)
      match digitsOf unsigned with
      | ([], _) => none
      | (digits, left) => some (if negative then -(natOf digits : Int) else natOf digits, left)
    else none
  | [] => none

/-- A number, an integer unless it has a fraction or an exponent. -/
def readNumber (text : List Char) : Option (Value × List Char) :=
  let (negative, unsigned) :=
    match text with
    | '-' :: unsigned => (true, unsigned)
    | _ => (false, text)
  let (run, afterRun) := digitsOf unsigned
  let (whole, rest) :=
    match run with
    | '0' :: more => (['0'], more ++ afterRun)
    | _ => (run, afterRun)
  if whole.isEmpty then none
  else
    let (fraction, afterFraction) :=
      match rest with
      | '.' :: further =>
        match digitsOf further with
        | ([], _) => ([], rest)
        | (digits, left) => (digits, left)
      | _ => ([], rest)
    match readExponent afterFraction with
    | some (exponent, left) => some (.float (floatOf negative whole fraction exponent), left)
    | none =>
      if fraction.isEmpty then
        some (.int (if negative then -(natOf whole : Int) else natOf whole), afterFraction)
      else some (.float (floatOf negative whole fraction 0), afterFraction)

/-- The words that stand for values. -/
def wordValues : List (String × Value) :=
  [("null", .null), ("true", .bool true), ("false", .bool false), ("NaN", .float (0.0 / 0.0)),
    ("Infinity", .float (1.0 / 0.0)), ("-Infinity", .float (-1.0 / 0.0))]

def readWord (text : List Char) : Option (Value × List Char) :=
  wordValues.findSome? fun (word, value) =>
    if word.toList.isPrefixOf text then some (value, text.drop word.length) else none

mutual

/-- A value and the text after it; `fuel` bounds the nesting and the number of items. -/
def readValue : Nat → List Char → Option (Value × List Char)
  | 0, _ => none
  | fuel + 1, text =>
    match skipBlanks text with
    | [] => none
    | '"' :: rest => (readString rest).map fun (s, left) => (.text (String.ofList s), left)
    | '[' :: rest =>
      match skipBlanks rest with
      | ']' :: left => some (.list [], left)
      | _ => (readItems fuel rest).map fun (items, left) => (.list items, left)
    | '{' :: rest =>
      match skipBlanks rest with
      | '}' :: left => some (.map [], left)
      | _ => (readFields fuel rest).map fun (fields, left) => (.map fields, left)
    | other =>
      match readWord other with
      | some found => some found
      | none => readNumber other

/-- The items of a list up to its closing bracket. -/
def readItems : Nat → List Char → Option (List Value × List Char)
  | 0, _ => none
  | fuel + 1, text =>
    match readValue fuel text with
    | none => none
    | some (item, rest) =>
      match skipBlanks rest with
      | ']' :: left => some ([item], left)
      | ',' :: further => (readItems fuel further).map fun (items, left) => (item :: items, left)
      | _ => none

/-- The fields of a map up to its closing brace. -/
def readFields : Nat → List Char → Option (List (String × Value) × List Char)
  | 0, _ => none
  | fuel + 1, text =>
    match skipBlanks text with
    | '"' :: afterQuote =>
      match readString afterQuote with
      | none => none
      | some (key, afterKey) =>
        match skipBlanks afterKey with
        | ':' :: afterColon =>
          match readValue fuel afterColon with
          | none => none
          | some (value, rest) =>
            let name := String.ofList key
            match skipBlanks rest with
            | '}' :: left => some ([(name, value)], left)
            | ',' :: further =>
              (readFields fuel further).map fun (fields, left) =>
                (if fields.any (·.1 == name) then fields else (name, value) :: fields, left)
            | _ => none
        | _ => none
    | _ => none

end

/-- The value of a whole text. -/
def read? (text : List Char) : Option Value :=
  match readValue (text.length + 1) text with
  | some (value, rest) => if (skipBlanks rest).isEmpty then some value else none
  | none => none

def hexChar (n : Nat) : Char := Char.ofNat (if n < 10 then '0'.toNat + n else 'a'.toNat + n - 10)

/-- A code unit as an escape of four digits. -/
def writeUnit (code : Nat) : List Char :=
  ['\\', 'u', hexChar (code / 4096 % 16), hexChar (code / 256 % 16), hexChar (code / 16 % 16),
    hexChar (code % 16)]

def writeChar (c : Char) : List Char :=
  match c with
  | '"' => ['\\', '"']
  | '\\' => ['\\', '\\']
  | '\n' => ['\\', 'n']
  | '\r' => ['\\', 'r']
  | '\t' => ['\\', 't']
  | _ =>
    let code := c.toNat
    if code == 8 then ['\\', 'b']
    else if code == 12 then ['\\', 'f']
    else if 32 ≤ code && code < 127 then [c]
    else if code < 0x10000 then writeUnit code
    else
      writeUnit (0xD800 + (code - 0x10000) / 0x400) ++ writeUnit (0xDC00 + (code - 0x10000) % 0x400)

def writeString (s : List Char) : List Char := '"' :: s.flatMap writeChar ++ ['"']

def writeFloat (x : Float) : String :=
  if x.isNaN then "NaN"
  else if x.isInf then if x < 0 then "-Infinity" else "Infinity"
  else Decimal.ofFloat x

mutual

/-- A value on one line. -/
def write : Value → List Char
  | .null => "null".toList
  | .bool true => "true".toList
  | .bool false => "false".toList
  | .int n => (toString n).toList
  | .float x => (writeFloat x).toList
  | .text s => writeString s.toList
  | .list items => '[' :: writeItems items ++ [']']
  | .map fields => '{' :: writeFields fields ++ ['}']
  | .special _ inside => writeString inside.toList

def writeItems : List Value → List Char
  | [] => []
  | [item] => write item
  | item :: next :: rest => write item ++ [',', ' '] ++ writeItems (next :: rest)

def writeFields : List (String × Value) → List Char
  | [] => []
  | [(key, value)] => writeString key.toList ++ [':', ' '] ++ write value
  | (key, value) :: next :: rest =>
    writeString key.toList ++ [':', ' '] ++ write value ++ [',', ' '] ++ writeFields (next :: rest)

end

def newlineAt (depth : Nat) : List Char := '\n' :: List.replicate (2 * depth) ' '

mutual

/-- A value with every item and field on a line of its own, `depth` levels in. -/
def indent : Nat → Value → List Char
  | _, .list [] => ['[', ']']
  | depth, .list (item :: rest) =>
    '[' :: newlineAt (depth + 1) ++ indentItems (depth + 1) (item :: rest) ++ newlineAt depth ++ [']']
  | _, .map [] => ['{', '}']
  | depth, .map (field :: rest) =>
    '{' :: newlineAt (depth + 1) ++ indentFields (depth + 1) (field :: rest) ++ newlineAt depth ++
      ['}']
  | _, value => write value

def indentItems : Nat → List Value → List Char
  | _, [] => []
  | depth, [item] => indent depth item
  | depth, item :: next :: rest =>
    indent depth item ++ [','] ++ newlineAt depth ++ indentItems depth (next :: rest)

def indentFields : Nat → List (String × Value) → List Char
  | _, [] => []
  | depth, [(key, value)] => writeString key.toList ++ [':', ' '] ++ indent depth value
  | depth, (key, value) :: next :: rest =>
    writeString key.toList ++ [':', ' '] ++ indent depth value ++ [','] ++ newlineAt depth ++
      indentFields depth (next :: rest)

end

end EditImpact.Json
