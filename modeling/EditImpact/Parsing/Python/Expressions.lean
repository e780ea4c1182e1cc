import EditImpact.Parsing.Python.Words

/-!
Expressions. Operators are not ranked, since only whether a text is an expression matters.
-/

namespace EditImpact.Parsing.Python

open Phrase

def enclosedParens (body : Text) : Text := sign "(" ++ enclosed (body ++ sign ")")

def enclosedBrackets (body : Text) : Text := sign "[" ++ enclosed (body ++ sign "]")

def enclosedBraces (body : Text) : Text := sign "\x7b" ++ enclosed (body ++ sign "\x7d")

def targets : Text := commas1 (ref .target) ++ opt (sign ",")

/-- The loops and conditions of a comprehension. -/
def comprehension : Text :=
  many1 (opt (word "async") ++ word "for" ++ targets ++ word "in" ++ ref .operand ++
    many (word "if" ++ ref .test))

def starred : Text := sign "*" ++ ref .operand

def yielded : Text :=
  word "yield" ++ opt (word "from" ++ ref .test ||| ref .items)

def default : Text := signBut "=" "=" ++ ref .test

def parameter (annotated : Bool) : Text :=
  let typeNote := if annotated then opt (sign ":" ++ (starred ||| ref .test)) else nothing
  firstOf [
    signBut "/" "/=",
    sign "**" ++ name ++ typeNote,
    sign "*" ++ opt (name ++ typeNote),
    name ++ typeNote ++ opt default,
    parens (commas name) ++ opt default]

def lambda : Text :=
  word "lambda" ++ commas (parameter false) ++ sign ":" ++ ref .test

def argument : Text :=
  firstOf [
    sign "**" ++ ref .test,
    sign "*" ++ ref .test,
    name ++ signBut "=" "=" ++ ref .test,
    ref .test ++ opt comprehension]

def arguments : Text := enclosedParens (commas argument)

def slice : Text :=
  let bounds := sign ":" ++ opt (ref .test) ++ opt (sign ":" ++ opt (ref .test))
  firstOf [bounds, starred, ref .test ++ opt bounds]

def displayItem : Text := starred ||| ref .test

def display : Text :=
  opt (displayItem ++ (comprehension ||| many (sign "," ++ displayItem) ++ opt (sign ",")))

def dictItem : Text := sign "**" ++ ref .operand ||| ref .test ++ sign ":" ++ ref .test

def dictOrSet : Text :=
  opt (dictItem ++ (comprehension ||| many (sign "," ++ dictItem) ++ opt (sign ",")) ++
    ahead (sign "\x7d") ||| display)

def atom : Text :=
  firstOf [
    many1 string,
    number,
    sign "...",
    anyWordOf ["True", "False", "None"],
    name,
    enclosedParens (yielded ||| display),
    enclosedBrackets display,
    enclosedBraces dictOrSet]

def trailer : Text :=
  firstOf [
    signBut "." "." ++ anyName,
    arguments,
    enclosedBrackets (commas slice)]

def unarySign : Text := firstOf [word "not", word "await", sign "-", sign "+", sign "~"]

def binarySign : Text :=
  firstOf [word "or", word "and", word "not" ++ word "in", word "in", word "is" ++ opt (word "not"),
    sign "==", sign "!=", sign "<>", sign "<=", sign ">=", signBut "<<" "=", signBut ">>" "=",
    sign "<", sign ">", signBut "**" "=", signBut "//" "=", signBut "*" "=*", signBut "/" "=/",
    signBut "+" "=", signBut "-" "=>", signBut "%" "=", signBut "@" "=", signBut "|" "=",
    signBut "&" "=", signBut "^" "="]

/-- Operands between operators, without a choice. -/
def operand : Text :=
  let single := many unarySign ++ ref .primary
  single ++ many (binarySign ++ single)

def test : Text :=
  firstOf [
    lambda,
    name ++ sign ":=" ++ ref .test,
    ref .operand ++ opt (word "if" ++ ref .operand ++ word "else" ++ ref .test)]

/-- Expressions between commas. -/
def items : Text :=
  let item := starred ||| ref .test
  commas1 item ++ opt (sign ",")

/-- What a loop, an assignment or a context manager binds. -/
def target : Text := opt (sign "*") ++ ref .primary

def patternAtom : Text :=
  firstOf [
    sign "*" ++ name,
    opt (sign "-") ++ number ++ opt (oneOf "+-" ++ number),
    many1 string,
    anyWordOf ["True", "False", "None"],
    name ++ many (sign "." ++ anyName) ++
      opt (enclosedParens (commas (opt (name ++ signBut "=" "=") ++ ref .pattern))),
    enclosedParens (commas (ref .pattern)),
    enclosedBrackets (commas (ref .pattern)),
    enclosedBraces (commas (sign "**" ++ name |||
      ref .pattern ++ sign ":" ++ ref .pattern))]

def pattern : Text :=
  patternAtom ++ many (sign "|" ++ patternAtom) ++ opt (word "as" ++ name)

end EditImpact.Parsing.Python
