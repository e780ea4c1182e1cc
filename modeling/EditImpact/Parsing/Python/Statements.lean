import EditImpact.Parsing.Python.Expressions

/-!
Statements and definitions.
-/

namespace EditImpact.Parsing.Python

open Phrase

def dotted : Text := name ++ many (sign "." ++ anyName)

def renamed : Text := opt (word "as" ++ name)

def assignedValue : Text := yielded ||| ref .items

def augmentedSign : Text :=
  firstOf (["+=", "-=", "*=", "/=", "@=", "//=", "%=", "**=", ">>=", "<<=", "&=", "^=", "|="].map sign)

/-- The end of a simple statement. -/
def statementEnd : Text := ahead (sign ";" ||| gap ++ lineEnd)

def expressionStatement : Text :=
  assignedValue ++
    opt (firstOf [
      many1 (signBut "=" "=" ++ assignedValue),
      sign ":" ++ ref .test ++ opt (signBut "=" "=" ++ assignedValue),
      augmentedSign ++ assignedValue])

def importStatement : Text :=
  firstOf [
    word "import" ++ commas1 (dotted ++ renamed),
    word "from" ++ (many1 (sign ".") ++ opt (butNot (word "import") ++ dotted) ||| dotted) ++
      word "import" ++
      firstOf [sign "*", enclosedParens (commas (name ++ renamed)), commas1 (name ++ renamed)]]

def typeParameters : Text :=
  enclosedBrackets (commas (opt (sign "**" ||| sign "*") ++ name ++ opt (sign ":" ++ ref .test) ++
    opt default))

def smallStatement : Text :=
  firstOf [
    anyWordOf ["pass", "break", "continue"],
    word "return" ++ opt (ref .items),
    word "raise" ++ opt (ref .items ++ opt (word "from" ++ ref .test)),
    word "del" ++ ref .items,
    anyWordOf ["global", "nonlocal"] ++ commas1 name,
    word "assert" ++ ref .test ++ opt (sign "," ++ ref .test),
    importStatement,
    word "type" ++ name ++ opt typeParameters ++ signBut "=" "=" ++ ref .test,
    expressionStatement] ++ statementEnd |||
  anyWordOf ["print", "exec"] ++ opt (sign ">>" ++ ref .test ++ opt (sign ",")) ++
    opt (ref .items) ++ statementEnd

def simpleLine : Text :=
  smallStatement ++ many (sign ";" ++ smallStatement) ++ opt (sign ";") ++ gap ++ lineEnd

/-- A colon and the statements under it. A block may be empty. -/
def suite : Text := sign ":" ++ ref .block

def name1 : Text := part .name (plain name)

def definition : Text :=
  node .function (opt (word "async") ++ word "def" ++ name1 ++ opt typeParameters ++
    part .params (plain (enclosedParens (commas (parameter true)))) ++
    opt (sign "->" ++ part .returns (plain (ref .test))) ++ suite)

def classDefinition : Text :=
  node .classDefinition (word "class" ++ name1 ++ opt typeParameters ++ opt arguments ++ suite)

def decorated : Text :=
  many1 (sign "@" ++ ref .test ++ gap ++ lineEnd ++ aligned) ++ (definition ||| classDefinition)

/-- A later branch of a compound statement, on a line of the same block. -/
def branch (head : Text) : Text := aligned ++ head ++ suite

def ifStatement : Text :=
  word "if" ++ ref .test ++ suite ++ many (branch (word "elif" ++ ref .test)) ++
    opt (branch (word "else"))

def loop : Text :=
  (word "while" ++ ref .test |||
    opt (word "async") ++ word "for" ++ targets ++ word "in" ++ ref .items) ++ suite ++
    opt (branch (word "else"))

def tryStatement : Text :=
  word "try" ++ suite ++
    many (branch (word "except" ++ opt (sign "*") ++
      opt (ref .items ++ opt (word "as" ++ ref .test)))) ++
    opt (branch (word "else")) ++ opt (branch (word "finally"))

def withStatement : Text :=
  let item := ref .test ++ opt (word "as" ++ ref .target)
  opt (word "async") ++ word "with" ++
    (enclosedParens (commas item) ++ ahead (sign ":") ||| commas1 item ++ opt (sign ",")) ++ suite

def matchStatement : Text :=
  word "match" ++ ref .items ++ sign ":" ++ gap ++ lineEnd ++ indent ++
    many1 (aligned ++ word "case" ++ commas1 (ref .pattern) ++ opt (sign ",") ++
      opt (word "if" ++ ref .test) ++ suite) ++ dedent

def statement : Text :=
  plain (firstOf [
    decorated,
    definition,
    classDefinition,
    ifStatement,
    loop,
    tryStatement,
    withStatement,
    matchStatement,
    simpleLine])

def block : Text :=
  plain (firstOf [
    gap ++ lineEnd ++ indent ++ many (aligned ++ ref .statement) ++ dedent,
    gap ++ lineEnd ++ butNot indent,
    simpleLine])

def rules : Rule → Text
  | .file => opt (gap ++ lineEnd) ++ many (aligned ++ ref .statement) ++ atEnd
  | .statement => statement
  | .block => block
  | .items => items
  | .test => test
  | .operand => operand
  | .primary => atom ++ many trailer
  | .target => target
  | .pattern => pattern

def python : Grammar Rule := ⟨rules, trivia, .file⟩

end EditImpact.Parsing.Python
