import EditImpact.Parsing.Script.Types

/-!
Expressions. Operators are not ranked, since only what stands inside an expression matters and not
how it is grouped.
-/

namespace EditImpact.Parsing.Script

open Phrase

def arguments : Text := parens (sparse (opt (sign "...") ++ ref .assignment))

def template : Text := templateOf (ref .expression)

def spread : Text := sign "..." ++ ref .assignment

def assignSign : Text :=
  firstOf (signBut "=" "=>" :: ["+=", "-=", "*=", "/=", "%=", "**=", "<<=", ">>=", ">>>=", "&=", "|=",
    "^=", "&&=", "||=", "??="].map sign)

def binarySign : Text :=
  firstOf [sign "===", sign "!==", sign "==", sign "!=", signBut ">>>" "=", signBut ">>" "=>",
    signBut "<<" "=", sign "<=", sign ">=", signBut "&&" "=", signBut "||" "=", signBut "??" "=",
    signBut "**" "=", sign "<", sign ">", signBut "+" "=+", signBut "-" "=-", signBut "*" "=*",
    signBut "/" "=", signBut "%" "=", signBut "&" "=&", signBut "|" "=|", signBut "^" "=",
    word "instanceof", word "in"]

def unarySign : Text :=
  firstOf [sign "++", sign "--", sign "!", sign "~", sign "+", sign "-",
    anyWordOf ["typeof", "void", "delete", "await"]]

/-- What stands behind an expression that ends. -/
def expressionEnd : Text := firstOf ([";", ",", ")", "]", "\x7d", ":"].map sign ++ [atEnd])

namespace Dialect

variable (dialect : Dialect)

/-- The words between the start of a function and its body, with its name if it has one. -/
def functionHead (named : Text) : Text :=
  opt (word "async") ++ word "function" ++ opt (sign "*") ++ named ++ dialect.callSignature

def functionName : Text := part .name (plain name)

def functionExpression : Text :=
  node .function (dialect.functionHead (opt functionName) ++ ref .block)

/-- The body of an arrow function; a brace always opens a block. -/
def arrowBody : Text :=
  sameLine ++ sign "=>" ++ (ref .block ||| butNot (sign "\x7b") ++ ref .assignment)

def arrow : Text :=
  let head := part .params (plain name) ++ arrowBody ||| dialect.callSignature ++ arrowBody
  node .arrow (word "async" ++ sameLine ++ head) ||| node .arrow head

def heritage : Text :=
  opt (word "extends" ++ commas1 (ref .callee ++ dialect.typed typeArguments)) ++
    dialect.typed (word "implements" ++ commas1 (ref .type))

def classModifiers : List String :=
  ["static", "async", "get", "set", "accessor"] ++
    if dialect.types then
      ["public", "private", "protected", "readonly", "abstract", "override", "declare"]
    else []

def classModifier : Text :=
  anyWordOf dialect.classModifiers ++
    ahead (gap ++ char fun c => isNameStart c || c.isDigit || "[\"'#*\\".toList.contains c)

def methodTail : Text :=
  plain dialect.callSignature ++ (ref .block ||| given dialect.types semicolon)

def fieldTail : Text := dialect.typed typeNote ++ opt assigned ++ semicolon

def classMember : Text :=
  firstOf [
    sign ";",
    word "static" ++ ref .block,
    many decorator ++ many dialect.classModifier ++
      firstOf [
        given dialect.types (brackets (name ++ typeNote) ++ typeNote ++ semicolon),
        opt (sign "*") ++ memberName ++ dialect.typed (sign "?" ||| signBut "!" "=") ++
          (dialect.methodTail ||| dialect.fieldTail)]]

def classTail : Text :=
  dialect.typed typeParameters ++ dialect.heritage ++ braces (many dialect.classMember)

def classExpression : Text :=
  node .classDefinition (many decorator ++ word "class" ++
    opt (butNot (given dialect.types (word "implements")) ++ functionName) ++ dialect.classTail)

def methodModifier : Text :=
  anyWordOf ["async", "get", "set", "static"] ++
    ahead (gap ++ char fun c => isNameStart c || c.isDigit || "[\"'#*\\".toList.contains c)

def property : Text :=
  firstOf [
    spread,
    many methodModifier ++ opt (sign "*") ++ memberName ++ plain dialect.callSignature ++ ref .block,
    memberName ++ sign ":" ++ ref .assignment,
    name ++ opt assigned]

def object : Text := plain (braces (sparse dialect.property))

def atom : Text :=
  firstOf [
    dialect.functionExpression,
    dialect.classExpression,
    plain (word "new" ++ (sign "." ++ anyName |||
      ref .created ++ dialect.typed typeArguments ++ opt arguments)),
    word "import" ++ (sign "." ++ anyName ||| ahead (sign "(")),
    given dialect.markup (ref .element),
    template,
    string,
    number,
    regex,
    plain (parens (ref .expression)),
    plain (brackets (sparse (opt (sign "...") ++ ref .assignment))),
    dialect.object,
    anyWordOf ["this", "super", "null", "true", "false"],
    name,
    privateName]

def memberSuffix : Text :=
  firstOf [
    sign "." ++ (anyName ||| privateName),
    brackets (ref .expression),
    given dialect.types (sameLine ++ signBut "!" "=")]

def suffix : Text :=
  firstOf [
    dialect.memberSuffix,
    sign "?." ++ butNot (char Char.isDigit) ++
      firstOf [anyName, privateName, brackets (ref .expression), arguments, template,
        given dialect.types (typeArguments ++ arguments)],
    arguments,
    template,
    given dialect.types (typeArguments ++ (arguments ||| template ||| ahead expressionEnd))]

def callee : Text := chain dialect.atom (many dialect.suffix)

/-- What follows the word that creates an object: arguments belong to the creation. -/
def created : Text := chain dialect.atom (many dialect.memberSuffix)

def unary : Text :=
  firstOf [
    plain (unarySign ++ ref .unary),
    given (dialect.types && !dialect.markup) (plain (sign "<" ++ ref .type ++ sign ">" ++ ref .unary)),
    chain (ref .callee) (opt (sameLine ++ (sign "++" ||| sign "--")))]

def operand : Text :=
  firstOf [
    binarySign ++ ref .unary,
    given dialect.types (sameLine ++ word "as" ++ (word "const" ||| ref .type)),
    given dialect.types (sameLine ++ word "satisfies" ++ ref .type)]

def yieldExpression : Text :=
  plain (word "yield" ++ opt (sameLine ++ opt (sign "*") ++ ref .assignment))

def assignment : Text :=
  let choice := signBut "?" ".?" ++ ref .assignment ++ sign ":" ++ ref .assignment
  firstOf [
    yieldExpression,
    dialect.arrow,
    chain (ref .unary) (many dialect.operand ++ opt choice ++ opt (assignSign ++ ref .assignment))]

end Dialect

def expression : Text := chain (ref .assignment) (many (sign "," ++ ref .assignment))

def tagName : Text := gap ++ char isNameStart ++ many (char fun c => isNamePart c || "-.:".toList.contains c)

def hole : Text := sign "\x7b" ++ opt (opt (sign "...") ++ ref .expression) ++ sign "\x7d"

def tagAttribute : Text :=
  hole ||| tagName ++ opt (sign "=" ++ firstOf [
    sign "\"" ++ many (noneOf "\"") ++ raw "\"",
    sign "'" ++ many (noneOf "'") ++ raw "'",
    hole,
    ref .element])

def tagChildren : Text := many (many1 (noneOf "\x7b\x7d<>") ||| hole ||| ref .element)

/-- Markup: a tag that closes itself, or a pair of tags around children. -/
def Dialect.element (dialect : Dialect) : Text :=
  let opened := raw ">" ++ tagChildren ++ sign "</"
  plain (sign "<" ++ firstOf [
    gap ++ opened ++ sign ">",
    tagName ++ dialect.typed typeArguments ++ many tagAttribute ++
      (sign "/>" ||| gap ++ opened ++ tagName ++ sign ">")])

end EditImpact.Parsing.Script
