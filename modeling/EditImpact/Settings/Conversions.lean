import EditImpact.Decimal.Read
import EditImpact.Settings.Check
import EditImpact.Text.Blank

/-!
What single values are taken for: words and the numbers 0 and 1 are flags, texts can be numbers, and
homes are looked up in a table.
-/

namespace EditImpact.Settings

def text : Value → Checked String
  | .text s => .accepted s
  | value => refuse value "Input should be a valid string"

def trueTexts : List String := ["1", "t", "true", "y", "yes", "on"]

def falseTexts : List String := ["0", "f", "false", "n", "no", "off"]

def flagUnclear : String := "Input should be a valid boolean, unable to interpret input"

/-- A flag: a boolean, one of the numbers 0 and 1, or a word for one of them. -/
def flag : Value → Checked Bool
  | .bool b => .accepted b
  | .int 0 => .accepted false
  | .int 1 => .accepted true
  | .int n => refuse (.int n) flagUnclear
  | .float x =>
    if x == 0 then .accepted false
    else if x == 1 then .accepted true
    else if x.isFinite && x.floor == x then refuse (.float x) flagUnclear
    else refuse (.float x) "Input should be a valid boolean"
  | .text s =>
    let word := String.ofList (s.toList.map Char.toLower)
    if trueTexts.contains word then .accepted true
    else if falseTexts.contains word then .accepted false
    else refuse (.text s) flagUnclear
  | value => refuse value "Input should be a valid boolean"

/-- A text without the single underscores between its characters; none if they stand elsewhere. -/
def withoutUnderscores? (text : List Char) : Option (List Char) :=
  let pieces := Text.splitBy (· == '_') text
  if pieces.length ≤ 1 || pieces.any (·.isEmpty) then none else some pieces.flatten

/-- The number that a text is. -/
def numberOf? (text : List Char) : Option Float :=
  let trimmed := Text.trim text
  Decimal.read? trimmed <|> (withoutUnderscores? trimmed).bind Decimal.read?

def number : Value → Checked Float
  | .float x => .accepted x
  | .bool b => .accepted (if b then 1 else 0)
  | .int n =>
    let x := Float.ofInt n
    if x.isFinite then .accepted x else refuse (.int n) "Input should be a valid number"
  | .text s =>
    match numberOf? s.toList with
    | some x => .accepted x
    | none =>
      refuse (.text s) "Input should be a valid number, unable to parse string as a number"
  | value => refuse value "Input should be a valid number"

/-- Words one by one, in quotes, with `or` before the last one. -/
def alternatives : List String → String
  | [] => ""
  | [word] => "'" ++ word ++ "'"
  | [word, last] => "'" ++ word ++ "' or '" ++ last ++ "'"
  | word :: words => "'" ++ word ++ "', " ++ alternatives words

/-- One of a few names. -/
def choice (names : List String) (value : Value) : Checked (Fin names.length) :=
  match value.text?.bind (names.finIdxOf? ·) with
  | some index => .accepted index
  | none => refuse value ("Input should be " ++ alternatives names)

def items : Value → Checked (List Value)
  | .list values => .accepted values
  | value => refuse value "Input should be a valid list"

def sectionFields (title : String) : Value → Checked (List (String × Value))
  | .map fields => .accepted fields
  | value => refuse value ("Input should be a valid dictionary or instance of " ++ title)

/-- The conversions of the program, with a table of the homes of users; the empty name is for whoever
runs it. -/
def bundledConversions (homes : List (String × String)) : Conversions where
  text := text
  flag := flag
  number := number
  choice := choice
  items := items
  fields := sectionFields
  home segment :=
    match homes.find? fun entry => "~" ++ entry.1 == segment with
    | some entry => entry.2
    | none => segment

end EditImpact.Settings
