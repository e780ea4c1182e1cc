import EditImpact.Files.Path
import EditImpact.Pattern.Build
import EditImpact.Pattern.Search

/-!
How a text can mention a file or a symbol. The tests are textual: they may take a common word for a
mention, and are meant to.
-/

namespace EditImpact.Impact

open Pattern

def quoteMark : Pattern := char (oneOf "'\"")

/-- A quoted module path that ends in `target`. -/
def quotedTarget (target : List Char) : Pattern :=
  quoteMark ++ many (between 1 2 (lit ".") ++ lit "/") ++
    many (many1 (char (setOf [.word] "@.-")) ++ lit "/") ++ chars target ++ quoteMark

/-- Imports of a quoted module path, in any case of letters. -/
def quotedImports (target : List Char) : List Pattern :=
  [wordEdge ++ lit "import" ++ wordEdge ++ anyBut ";\n" ++ quotedTarget target,
    wordEdge ++ lit "require(" ++ blanks ++ quotedTarget target ++ blanks ++ lit ")",
    wordEdge ++ lit "from" ++ blanks1 ++ quotedTarget target].map ignoringCase

/-- Imports of a dotted module name at the start of a line. -/
def dottedImports (stem : List Char) : List Pattern :=
  let packages := many (word1 ++ lit ".")
  [lineStart ++ blanks ++ lit "from" ++ blanks1 ++ many (lit ".") ++ packages ++ chars stem ++
      blanks1 ++ lit "import" ++ wordEdge,
    lineStart ++ blanks ++ lit "import" ++ blanks1 ++ packages ++ chars stem ++ wordEdge]

/-- The ways to import a file: by its name without and with its ending. -/
def importPatterns (source : Path) : List Pattern :=
  quotedImports source.stem.toList ++ quotedImports source.name.toList ++
    dottedImports source.stem.toList

def imports (patterns : List Pattern) (content : List Char) : Bool :=
  patterns.any (·.occurs content)

/-- The ways to define a symbol. -/
def definitionPatterns (symbol : List Char) : List Pattern :=
  let name := chars symbol
  [wordEdge ++ lit "function" ++ blanks ++ opt (lit "*") ++ blanks ++ name ++ blanks ++
      char (oneOf "<("),
    wordEdge ++ lit "class" ++ blanks1 ++ name ++ wordEdge,
    wordEdge ++ anyWord ["const", "let", "var"] ++ blanks1 ++ name ++ blanks ++
      opt (lit ":" ++ anyBut "=") ++ lit "=",
    wordEdge ++ lit "def" ++ blanks1 ++ name ++ blanks ++ lit "(",
    wordEdge ++ lit "func" ++ blanks1 ++ opt (lit "(" ++ anyBut ")" ++ lit ")" ++ blanks) ++ name ++
      blanks ++ lit "(",
    wordEdge ++ lit "fn" ++ blanks1 ++ name ++ blanks ++ char (oneOf "<("),
    wordEdge ++ anyWord ["public", "private", "protected", "internal"] ++ blanks1 ++
      anyBut "\n;=" ++ wordEdge ++ name ++ blanks ++ lit "("]

/-- The symbol as a whole identifier. -/
def identifier (symbol : List Char) : Pattern :=
  let inName := setOf [.word] "$"
  notAfter inName ++ chars symbol ++ notBefore inName

def mentions (symbol content : List Char) : Bool := (identifier symbol).occurs content

/-- Whether a text mentions a symbol without defining it. -/
def references (symbol content : List Char) : Bool :=
  mentions symbol content && !(definitionPatterns symbol).any (·.occurs content)

end EditImpact.Impact
