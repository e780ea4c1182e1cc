import EditImpact.Language
import EditImpact.Pattern.Build

/-!
Patterns that find the header of a function or a class by name. A function header ends with the
parenthesis that opens its parameters.
-/

namespace EditImpact.Signature

open Pattern

/-- How the return type of a function is found from its header. -/
inductive HeaderKind where
  /-- An arrow after the parameters, up to a colon. -/
  | arrowThenColon
  /-- Everything between the parameters and the body. -/
  | beforeBody
  /-- Written in front of the name. -/
  | beforeName
  /-- A colon after the parameters, up to the body. -/
  | colonThenBody
  /-- As `colonThenBody`, for a value bound to a name, which may be no function at all. -/
  | boundValue
  deriving DecidableEq, Repr

structure Header where
  pattern : Pattern
  kind : HeaderKind

/-- Type arguments that hold no parenthesis. -/
def angleArguments : Pattern := opt (lit "<" ++ anyBut ">(" ++ lit ">")

def methodModifiers : List String :=
  ["public", "private", "protected", "internal", "static", "final", "abstract", "virtual",
    "override", "async", "synchronized", "sealed", "extern", "unsafe"]

/-- Words in front of a call that are no return type. -/
def notTypes : List String := ["return", "new", "else", "throw", "await", "yield", "case"]

def typedHeader (name : Pattern) : Pattern :=
  lineStart ++ gap ++ many (anyWord methodModifiers ++ gap1) ++
    capture (many1 (char (setOf [.word] "<>[],.?")) ++
      opt (gap ++ lit "<" ++ anyBut ">(" ++ lit ">")) ++
    gap1 ++ name ++ gap ++ angleArguments ++ gap ++ lit "("

def functionKeyword : Pattern :=
  lit "function" ++ wordEdge ++ blanks ++ opt (lit "*") ++ blanks

def bindingWord : Pattern := wordEdge ++ anyWord ["const", "let", "var"] ++ blanks1

def declaredHeader (name : Pattern) : Pattern :=
  wordEdge ++ functionKeyword ++ name ++ blanks ++ angleArguments ++ blanks ++ lit "("

def boundHeader (name : Pattern) : Pattern :=
  bindingWord ++ name ++ blanks ++ opt (lit ":" ++ few (char (noneOf "="))) ++ lit "=" ++
    blanks ++ opt (lit "async" ++ blanks1) ++
    opt (functionKeyword ++ many (char (setOf [.word] "$")) ++ blanks) ++ angleArguments ++
    blanks ++ lit "("

/-- The headers that a function called `name` may have, in the order they are tried. -/
def functionHeaders (language : Option Language) (name : List Char) : List Header :=
  let name := chars name
  match language with
  | some .python =>
    [⟨lineStart ++ opt (lit "async" ++ gap1) ++ lit "def" ++ gap1 ++ name ++ gap ++ lit "(",
      .arrowThenColon⟩]
  | some .rust =>
    [⟨wordEdge ++ lit "fn" ++ blanks1 ++ name ++ blanks ++ angleArguments ++ blanks ++ lit "(",
      .beforeBody⟩]
  | some .go =>
    [⟨wordEdge ++ lit "func" ++ blanks1 ++ opt (lit "(" ++ anyBut ")" ++ lit ")" ++ blanks) ++
        name ++ blanks ++ opt (lit "[" ++ anyBut "]" ++ lit "]") ++ blanks ++ lit "(",
      .beforeBody⟩]
  | some .java => [⟨typedHeader name, .beforeName⟩]
  | some .csharp => [⟨typedHeader name, .beforeName⟩]
  | _ => [⟨declaredHeader name, .colonThenBody⟩, ⟨boundHeader name, .boundValue⟩]

/-- A name bound to a function of one parameter written without parentheses. -/
def bareArrow (name : List Char) : Pattern :=
  bindingWord ++ chars name ++ blanks ++ lit "=" ++ blanks ++ opt (lit "async" ++ blanks1) ++
    capture scriptName ++ blanks ++ lit "=>"

def classHeader (language : Option Language) (name : List Char) : Pattern :=
  match language with
  | some .python => lineStart ++ gap ++ lit "class" ++ gap1 ++ chars name ++ wordEdge
  | some .go => wordEdge ++ lit "type" ++ blanks1 ++ chars name ++ blanks1 ++ lit "struct" ++ wordEdge
  | some .rust => wordEdge ++ lit "struct" ++ blanks1 ++ chars name ++ wordEdge
  | _ => wordEdge ++ lit "class" ++ blanks1 ++ chars name ++ wordEdge

/-- The start of any class, which ends the one before it. -/
def anyClass : Pattern :=
  lineStart ++ gap ++ opt (lit "export" ++ gap1) ++ opt (lit "default" ++ gap1) ++
    opt (lit "abstract" ++ gap1) ++ lit "class" ++ char (oneOf " \t")

def constructorHeader : Option Language → Pattern
  | some .python => lineStart ++ gap ++ lit "def" ++ gap1 ++ lit "__init__" ++ gap ++ lit "("
  | _ => wordEdge ++ lit "constructor" ++ blanks ++ lit "("

end EditImpact.Signature
