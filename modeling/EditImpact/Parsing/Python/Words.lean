import EditImpact.Parsing.Phrase
import EditImpact.Text.WordChar

/-!
The words of Python: blanks and comments, names, numbers, strings.
-/

namespace EditImpact.Parsing.Python

/-- The rules that use each other. -/
inductive Rule where
  | file
  | statement
  | block
  | items
  | test
  | operand
  | primary
  | target
  | pattern
  deriving DecidableEq, Repr

abbrev Text := Phrase Rule

/-- What another rule reads. -/
def ref (name : Rule) : Text := .rule name

/-- Blanks; inside brackets line ends and comments are blank too. -/
def triviaFrom : Bool → Bool → List Char → Nat
  | _, _, [] => 0
  | enclosed, false, '\\' :: '\r' :: '\n' :: rest => triviaFrom enclosed false rest + 3
  | enclosed, false, '\\' :: '\n' :: rest => triviaFrom enclosed false rest + 2
  | enclosed, inComment, c :: rest =>
    if inComment then triviaFrom enclosed (c != '\n' && c != '\r') rest + 1
    else if Cursor.isBlankInLine c || c == '\ufeff' then triviaFrom enclosed false rest + 1
    else if enclosed && (c == '\n' || c == '\r') then triviaFrom enclosed false rest + 1
    else if enclosed && c == '#' then triviaFrom enclosed true rest + 1
    else 0

def trivia : Trivia := fun enclosed text => some (triviaFrom enclosed false text)

open Phrase

def isNamePart (c : Char) : Bool := Text.isWord c

def isNameStart (c : Char) : Bool := isNamePart c && !Text.isDigit c

def word (text : String) : Text := sign text ++ butNot (char isNamePart)

def anyWordOf (texts : List String) : Text := firstOf (texts.map word)

def anyName : Text := gap ++ char isNameStart ++ many (char isNamePart)

def reserved : List String :=
  ["False", "None", "True", "and", "as", "assert", "break", "class", "continue", "def", "del",
    "elif", "else", "except", "finally", "for", "from", "global", "if", "import", "in", "is",
    "lambda", "nonlocal", "not", "or", "pass", "raise", "return", "try", "while", "with", "yield"]

def name : Text := butNot (anyWordOf reserved) ++ anyName

def isDigitOrUnderscore (c : Char) : Bool := c.isDigit || c == '_'

def digits : Text := char Char.isDigit ++ many (char isDigitOrUnderscore)

def exponent : Text :=
  char (fun c => c == 'e' || c == 'E') ++ opt (char fun c => c == '+' || c == '-') ++ digits

def number : Text :=
  gap ++ firstOf [
    raw "0" ++ char (fun c => "xXoObB".toList.contains c) ++
      many1 (char fun c => c.isAlphanum || c == '_'),
    (raw "." ++ digits ||| digits ++ opt (raw "." ++ opt digits)) ++ opt exponent] ++
    opt (char fun c => "jJlL".toList.contains c)

def escape : Text := raw "\\" ++ char fun _ => true

/-- A backslash in a formatted string; before a brace it stands for itself. -/
def formattedEscape : Text :=
  firstOf [
    raw "\\N\x7b" ++ many (noneOf "\x7d\n") ++ raw "\x7d",
    raw "\\" ++ noneOf "\x7b\x7d",
    raw "\\"]

/-- A string between quotes. Braces of a formatted string hold expressions. -/
def quotedBy (formatted : Bool) (quote : String) : Text :=
  let interpolation :=
    raw "\x7b" ++ enclosed (ref .items ++ opt (signBut "=" "=") ++
      opt (sign "!" ++ char isNameStart) ++
      opt (sign ":" ++ many (raw "\x7b" ++ ref .items ++ sign "\x7d" |||
        butNot (raw quote) ++ noneOf "\x7b\x7d\n")) ++ sign "\x7d")
  let inside :=
    if formatted then
      firstOf [raw "\x7b\x7b", raw "\x7d\x7d", interpolation, noneOf "\x7b\x7d\\"]
    else noneOf "\\"
  let ends := if quote.length == 3 then never else raw "\n"
  raw quote ++ many ((if formatted then formattedEscape else escape) ||| butNot (raw quote) ++ butNot ends ++ inside) ++ raw quote

def quoted (formatted : Bool) : Text :=
  firstOf (["\"\"\"", "'''", "\"", "'"].map (quotedBy formatted))

def string : Text :=
  gap ++ firstOf [
    quoted false,
    many (char fun c => "rRbBuU".toList.contains c) ++ quoted false,
    many (char fun c => "rRfFtT".toList.contains c) ++ quoted true]

end EditImpact.Parsing.Python
