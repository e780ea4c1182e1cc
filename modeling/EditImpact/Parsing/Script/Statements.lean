import EditImpact.Parsing.Script.Expressions

/-!
Statements and declarations, and the grammars of the three dialects.
-/

namespace EditImpact.Parsing.Script

open Phrase

def condition : Text := parens (ref .expression)

def nameList : Text :=
  braces (commas (opt (word "type" ++ ahead (gap ++ char isNameStart)) ++ (anyName ||| string) ++
    opt (word "as" ++ (anyName ||| string))))

def origin : Text :=
  word "from" ++ string ++ opt (sameLine ++ anyWordOf ["with", "assert"] ++ ref .callee)

def importClause : Text :=
  firstOf [
    sign "*" ++ word "as" ++ name,
    nameList,
    name ++ opt (sign "," ++ (sign "*" ++ word "as" ++ name ||| nameList))]

namespace Dialect

variable (dialect : Dialect)

def declarator : Text :=
  node .binding ((part .name (plain name) ||| ref .pattern) ++
    dialect.typed (signBut "!" "=") ++ dialect.typed typeNote ++
    opt (signBut "=" "=>" ++ part .value (ref .assignment)))

def declarationWord : Text := anyWordOf ["const", "let", "var"]

def declarators : Text := declarationWord ++ commas1 dialect.declarator

def functionDeclaration : Text :=
  node .function (dialect.functionHead functionName ++ ref .block)

/-- A function without a body only announces one. -/
def functionAnnouncement : Text := plain (dialect.functionHead functionName ++ semicolon)

def classDeclaration : Text :=
  node .classDefinition (many decorator ++ dialect.typed (word "abstract") ++ word "class" ++
    functionName ++ dialect.classTail)

def interfaceDeclaration : Text :=
  word "interface" ++ name ++ opt typeParameters ++
    opt (word "extends" ++ commas1 (ref .type)) ++ objectType

def aliasDeclaration : Text :=
  word "type" ++ name ++ opt typeParameters ++ sign "=" ++ ref .type ++ semicolon

def enumDeclaration : Text :=
  plain (opt (word "const") ++ word "enum" ++ name ++
    braces (commas ((anyName ||| string ||| brackets (ref .expression)) ++ opt assigned)))

def namespaceDeclaration : Text :=
  plain (anyWordOf ["namespace", "module"] ++ sameLine ++ (qualifiedName ||| string) ++
    (ref .block ||| semicolon))

/-- Declarations that only the dialects with types have. -/
def typedDeclaration : Text :=
  firstOf [
    interfaceDeclaration,
    aliasDeclaration,
    enumDeclaration,
    namespaceDeclaration,
    plain (word "declare" ++ sameLine ++ word "global" ++ ref .block),
    plain (word "declare" ++ sameLine ++ ahead (gap ++ char isNameStart) ++ ref .statement),
    word "import" ++ opt (word "type") ++ name ++ sign "=" ++ ref .expression ++ semicolon]

def importStatement : Text :=
  word "import" ++ butNot (oneOf "(.") ++
    firstOf [
      string ++ opt (sameLine ++ anyWordOf ["with", "assert"] ++ ref .callee),
      given dialect.types (word "type" ++ importClause ++ origin),
      importClause ++ origin] ++ semicolon

def exportDefault : Text :=
  word "default" ++
    firstOf [
      dialect.functionDeclaration,
      dialect.classDeclaration,
      given dialect.types (interfaceDeclaration ||| dialect.functionAnnouncement),
      butNot (dialect.functionHead functionName) ++ ref .expression ++ semicolon]

def exportStatement : Text :=
  many decorator ++ word "export" ++
    firstOf [
      dialect.exportDefault,
      given dialect.types (sign "=" ++ ref .expression ++ semicolon),
      given dialect.types (word "as" ++ word "namespace" ++ name ++ semicolon),
      dialect.typed (word "type" ++ ahead (oneOf "*\x7b")) ++
        (sign "*" ++ opt (word "as" ++ (anyName ||| string)) ++ origin ||| nameList ++ opt origin) ++
        semicolon,
      ahead (anyWordOf ["const", "let", "var", "function", "async", "class", "abstract", "interface",
        "type", "enum", "namespace", "module", "declare", "import"] ||| sign "@") ++ ref .statement]

def loopHead : Text :=
  let inWhat := anyWordOf ["of", "in"] ++ ref .expression
  firstOf [
    declarationWord ++ ref .pattern ++ inWhat,
    ref .callee ++ inWhat,
    (dialect.declarators ||| opt (ref .expression)) ++ sign ";" ++ opt (ref .expression) ++ sign ";" ++
      opt (ref .expression)]

def switchCase : Text :=
  (word "case" ++ ref .expression ||| word "default") ++ sign ":" ++ many (ref .statement)

def jump : Text :=
  firstOf [
    word "return" ++ opt (sameLine ++ ref .expression),
    word "throw" ++ ref .expression,
    anyWordOf ["break", "continue"] ++ opt (sameLine ++ name),
    word "debugger"] ++ semicolon

def tryStatement : Text :=
  word "try" ++ ref .block ++
    opt (word "catch" ++ opt (parens (ref .pattern ++ dialect.typed typeNote)) ++ ref .block) ++
    opt (word "finally" ++ ref .block)

def loop : Text :=
  firstOf [
    word "for" ++ opt (word "await") ++ parens dialect.loopHead ++ ref .statement,
    word "while" ++ condition ++ ref .statement,
    word "do" ++ ref .statement ++ word "while" ++ condition ++ opt (sign ";")]

/-- What starts like a block or like a named declaration is no expression. -/
def expressionStatement : Text :=
  butNot (firstOf [
    sign "\x7b",
    opt (word "async") ++ word "function" ++ opt (sign "*") ++ name,
    word "class" ++ name]) ++
    ref .expression ++ semicolon

def statement : Text :=
  plain (firstOf [
    ref .block,
    sign ";",
    dialect.importStatement,
    given dialect.types typedDeclaration,
    dialect.declarators ++ semicolon,
    dialect.functionDeclaration,
    given dialect.types dialect.functionAnnouncement,
    dialect.classDeclaration,
    dialect.exportStatement,
    word "if" ++ condition ++ ref .statement ++ opt (word "else" ++ ref .statement),
    dialect.loop,
    word "switch" ++ condition ++ braces (many switchCase),
    dialect.tryStatement,
    jump,
    word "with" ++ condition ++ ref .statement,
    name ++ sign ":" ++ ref .statement,
    expressionStatement])

def rules : Rule → Text
  | .script => opt (raw "#!" ++ many (noneOf "\n")) ++ many (ref .statement) ++ atEnd
  | .statement => dialect.statement
  | .block => plain (braces (many (ref .statement)))
  | .expression => expression
  | .assignment => dialect.assignment
  | .unary => dialect.unary
  | .callee => dialect.callee
  | .created => dialect.created
  | .pattern => pattern
  | .type => typeRule
  | .element => dialect.element

def grammar : Grammar Rule := ⟨dialect.rules, trivia, .script⟩

end Dialect

def javascript : Grammar Rule := Dialect.grammar ⟨false, true⟩

def typescript : Grammar Rule := Dialect.grammar ⟨true, false⟩

def tsx : Grammar Rule := Dialect.grammar ⟨true, true⟩

end EditImpact.Parsing.Script
