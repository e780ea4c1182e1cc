import EditImpact.Parsing.Phrase
import EditImpact.Text.Blank

/-!
The words of JavaScript and TypeScript: blanks and comments, names, numbers, strings, regular
expressions.
-/

namespace EditImpact.Parsing.Script

/-- What a script may hold beyond plain statements. -/
structure Dialect where
  types : Bool
  markup : Bool
  deriving DecidableEq, Repr

/-- The rules that use each other. -/
inductive Rule where
  | script
  | statement
  | block
  | expression
  | assignment
  | unary
  | callee
  | created
  | pattern
  | type
  | element
  deriving DecidableEq, Repr

abbrev Text := Phrase Rule

/-- What another rule reads. -/
def ref (name : Rule) : Text := .rule name

inductive CommentMode where
  | code
  | line
  | block

def isScriptBlank (c : Char) : Bool :=
  Text.isBlank c || c == '\ufeff' || c == '\u2060' || c == '\u200b'

/-- Blanks and both kinds of comments; a block comment has to end. -/
def triviaFrom : CommentMode → List Char → Option Nat
  | .code, '/' :: '/' :: rest => (triviaFrom .line rest).map (· + 2)
  | .code, '/' :: '*' :: rest => (triviaFrom .block rest).map (· + 2)
  | .code, c :: rest => if isScriptBlank c then (triviaFrom .code rest).map (· + 1) else some 0
  | .line, c :: rest =>
    (triviaFrom (if Cursor.isLineEnd c then .code else .line) rest).map (· + 1)
  | .block, '*' :: '/' :: rest => (triviaFrom .code rest).map (· + 2)
  | .block, _ :: rest => (triviaFrom .block rest).map (· + 1)
  | .block, [] => none
  | _, [] => some 0

def trivia : Trivia := fun _ text => triviaFrom .code text

open Phrase

/-- Characters of names: all but blanks, controls and the punctuation of the language. -/
def isNamePart (c : Char) : Bool :=
  c.toNat > 31 && !isScriptBlank c &&
    !(":;`\"'@#.,|^&<=>+-*/\\%?!~()[]\x7b\x7d".toList.contains c)

def isNameStart (c : Char) : Bool := isNamePart c && !c.isDigit

def isHex (c : Char) : Bool := c.isDigit || ('a' ≤ c && c ≤ 'f') || ('A' ≤ c && c ≤ 'F')

def codeEscape : Text :=
  raw "\\u" ++ (many1 (char isHex) ||| raw "\x7b" ++ many1 (char isHex) ++ raw "\x7d")

def word (text : String) : Text := sign text ++ butNot (char isNamePart)

def anyWordOf (texts : List String) : Text := firstOf (texts.map word)

/-- Any word, reserved or not. -/
def anyName : Text :=
  gap ++ (char isNameStart ||| codeEscape) ++ many (char isNamePart ||| codeEscape)

def reserved : List String :=
  ["break", "case", "catch", "class", "const", "continue", "debugger", "default", "delete", "do",
    "else", "enum", "export", "extends", "false", "finally", "for", "function", "if", "import",
    "in", "instanceof", "new", "null", "return", "super", "switch", "this", "throw", "true", "try",
    "typeof", "var", "void", "while", "with"]

def name : Text := butNot (anyWordOf reserved) ++ anyName

def privateName : Text := sign "#" ++ char isNameStart ++ many (char isNamePart)

/-- Digits of a kind, with single underscores between them. -/
def digitsOf (isDigit : Char → Bool) : Text :=
  char isDigit ++ many (opt (raw "_") ++ char isDigit)

def digits : Text := digitsOf Char.isDigit

/-- Digits after a zero and one of two letters. -/
def digitsAfter (letters : String) (isDigit : Char → Bool) : Text :=
  raw "0" ++ char (letters.toList.contains ·) ++ digitsOf isDigit ++ opt (raw "n")

def exponent : Text := char (fun c => c == 'e' || c == 'E') ++ opt (char (fun c => c == '+' || c == '-')) ++ digits

def number : Text :=
  gap ++ firstOf [
    digitsAfter "xX" isHex,
    digitsAfter "oO" fun c => '0' ≤ c && c ≤ '7',
    digitsAfter "bB" fun c => c == '0' || c == '1',
    digits ++ raw "n",
    digits ++ opt (raw "." ++ opt digits) ++ opt exponent,
    raw "." ++ digits ++ opt exponent]

def escape : Text := raw "\\" ++ char fun _ => true

def quoted (quote : String) : Text :=
  raw quote ++ many (escape ||| noneOf (quote ++ "\\\n\r")) ++ raw quote

def string : Text := gap ++ (quoted "\"" ||| quoted "'")

def regexClass : Text := raw "[" ++ many (escape ||| noneOf "]\\\n") ++ raw "]"

def regex : Text :=
  sign "/" ++ butNot (raw "*") ++ many1 (escape ||| regexClass ||| noneOf "/\\[\n") ++ raw "/" ++
    many (char Char.isAlpha)

/-- Text between backquotes with `body` in its holes. -/
def templateOf (body : Text) : Text :=
  plain (sign "`" ++ many (escape ||| raw "$\x7b" ++ body ++ sign "\x7d" |||
    butNot (raw "$\x7b") ++ noneOf "`\\") ++ raw "`")

/-- The end of a statement: a semicolon, or a place where one may be left out. -/
def semicolon : Text := sign ";" ||| ahead (sign "\x7d") ||| atEnd ||| lineBreak

def sameLine : Text := butNot lineBreak

end EditImpact.Parsing.Script
