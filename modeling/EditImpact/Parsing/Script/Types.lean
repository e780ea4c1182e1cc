import EditImpact.Parsing.Script.Words

/-!
Types, parameters and the names that bind values.
-/

namespace EditImpact.Parsing.Script

open Phrase

def assigned : Text := signBut "=" "=>" ++ ref .assignment

def typeArguments : Text := sign "<" ++ commas (ref .type) ++ sign ">"

def typeParameter : Text :=
  many (anyWordOf ["const", "in", "out"]) ++ name ++ opt (word "extends" ++ ref .type) ++
    opt (sign "=" ++ ref .type)

def typeParameters : Text := sign "<" ++ commas typeParameter ++ sign ">"

def typeNote : Text := sign ":" ++ ref .type

/-- The type of a result, which may also be a promise about an argument. -/
def resultType : Text :=
  firstOf [
    word "asserts" ++ sameLine ++ (word "this" ||| name) ++ opt (word "is" ++ ref .type),
    (word "this" ||| name) ++ sameLine ++ word "is" ++ ref .type,
    ref .type]

def memberName : Text :=
  firstOf [anyName, privateName, string, number, brackets (ref .assignment)]

def decorator : Text := sign "@" ++ ref .callee

namespace Dialect

variable (dialect : Dialect)

/-- A phrase that only the dialects with types have, and there only if it is wanted. -/
def typed (body : Text) : Text := if dialect.types then opt body else nothing

def accessModifier : Text :=
  anyWordOf ["public", "private", "protected", "override", "readonly"] ++
    ahead (gap ++ char fun c => isNameStart c || c == '[' || c == '\x7b')

def parameter : Text :=
  many decorator ++ dialect.typed (many accessModifier) ++ opt (sign "...") ++
    (ref .pattern ||| given dialect.types (word "this")) ++
    dialect.typed (sign "?") ++ dialect.typed typeNote ++ opt assigned

def parameters : Text := plain (parens (commas dialect.parameter))

/-- The parameters of a function and the type of its result, as parts of its node. -/
def callSignature : Text :=
  dialect.typed typeParameters ++ part .params dialect.parameters ++
    dialect.typed (part .returns (plain (sign ":" ++ resultType)))

end Dialect

def patternProperty : Text :=
  firstOf [
    sign "..." ++ ref .pattern,
    memberName ++ sign ":" ++ ref .pattern ++ opt assigned,
    name ++ opt assigned]

def pattern : Text :=
  firstOf [
    plain name,
    plain (braces (sparse patternProperty)),
    plain (brackets (sparse (opt (sign "...") ++ ref .pattern ++ opt assigned)))]

def functionType : Text :=
  opt typeParameters ++ Dialect.parameters ⟨true, false⟩ ++ sign "=>" ++ resultType

def constructorType : Text :=
  opt (word "abstract") ++ word "new" ++ functionType

def qualifiedName : Text := name ++ many (sign "." ++ anyName)

def typeQuery : Text :=
  word "typeof" ++
    firstOf [word "import" ++ parens (ref .type), word "this", name] ++
    many (sign "." ++ (anyName ||| privateName) ||| sameLine ++ brackets (ref .type)) ++
    opt (sameLine ++ typeArguments)

def memberModifier : Text :=
  anyWordOf ["public", "private", "protected", "static", "readonly", "get", "set"] ++
    ahead (gap ++ char fun c => isNameStart c || c.isDigit || "[\"'#".toList.contains c)

def typeMember : Text :=
  let calls := opt typeParameters ++ Dialect.parameters ⟨true, false⟩ ++ opt (sign ":" ++ resultType)
  let sign1 := oneOf "+-"
  firstOf [
    opt (opt sign1 ++ word "readonly") ++ sign "[" ++ name ++
      (typeNote ||| word "in" ++ ref .type ++ opt (word "as" ++ ref .type)) ++ sign "]" ++
      opt (opt sign1 ++ sign "?") ++ opt typeNote,
    word "new" ++ calls,
    calls,
    many memberModifier ++ memberName ++ opt (sign "?") ++ (calls ||| opt typeNote)]

def objectType : Text :=
  braces (many (typeMember ++ firstOf [sign ";", sign ",", ahead (sign "\x7d"), lineBreak]))

def tupleMember : Text :=
  firstOf [
    opt (sign "...") ++ name ++ opt (sign "?") ++ typeNote,
    opt (sign "...") ++ ref .type ++ opt (sign "?")]

def typeAtom : Text :=
  firstOf [
    parens (ref .type),
    objectType,
    brackets (commas tupleMember),
    string,
    opt (sign "-") ++ number,
    templateOf (ref .type),
    typeQuery,
    word "import" ++ parens (ref .type) ++ many (sign "." ++ anyName) ++ opt typeArguments,
    anyWordOf ["this", "void", "null", "true", "false"],
    qualifiedName ++ opt (sameLine ++ typeArguments)]

def typeOperand : Text :=
  many (anyWordOf ["keyof", "readonly", "unique", "infer"] ++
    ahead (gap ++ char fun c => isNameStart c || "([\x7b\"'`".toList.contains c)) ++
    typeAtom ++ many (sameLine ++ brackets (opt (ref .type)))

def intersection : Text :=
  opt (signBut "&" "&") ++ typeOperand ++ many (signBut "&" "&=" ++ typeOperand)

def union : Text :=
  let member := firstOf [functionType, constructorType, intersection]
  opt (signBut "|" "|") ++ member ++ many (signBut "|" "|=" ++ member)

def typeRule : Text :=
  union ++ opt (word "extends" ++ ref .type ++ sign "?" ++ ref .type ++ sign ":" ++ ref .type)

end EditImpact.Parsing.Script
