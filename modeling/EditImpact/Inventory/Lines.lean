import EditImpact.Inventory.Basic
import EditImpact.Pattern.Search
import EditImpact.Signature.Extract

/-!
Declarations read line by line, for languages without a grammar.
-/

namespace EditImpact.Inventory

open Pattern

/-- A visibility that may be limited to a place in parentheses. -/
def visibility : Pattern := opt (lit "pub" ++ opt (lit "(" ++ anyBut ")" ++ lit ")") ++ blanks1)

def optWord (text : String) : Pattern := opt (lit text ++ blanks1)

def methodWords : List String :=
  ["public", "private", "protected", "internal", "static", "final", "abstract", "virtual",
    "override", "async", "synchronized", "sealed"]

/-- The beginnings of lines that declare a function, in the order they are tried. -/
def functionLines : List Pattern := [
  blanks ++ optWord "export" ++ optWord "default" ++ optWord "async" ++ lit "function" ++ blanks ++
    opt (lit "*") ++ blanks ++ capture scriptName,
  blanks ++ optWord "export" ++ anyWord ["const", "let", "var"] ++ blanks1 ++ capture scriptName ++
    blanks ++ opt (lit ":" ++ anyBut "=") ++ lit "=" ++ blanks ++ optWord "async" ++
    firstOf [
      lit "function" ++ wordEdge,
      lit "(" ++ anyBut ")" ++ lit ")" ++ blanks ++ opt (lit ":" ++ anyBut "=") ++ lit "=>",
      scriptName ++ blanks ++ lit "=>"],
  blanks ++ optWord "async" ++ lit "def" ++ blanks1 ++ capture plainName,
  blanks ++ lit "func" ++ blanks1 ++ opt (lit "(" ++ anyBut ")" ++ lit ")" ++ blanks) ++
    capture plainName,
  blanks ++ visibility ++ optWord "async" ++ optWord "unsafe" ++ lit "fn" ++ blanks1 ++
    capture plainName,
  blanks ++ many1 (anyWord methodWords ++ blanks1) ++
    many1 (char (setOf [.word] "<>[],.?")) ++ blanks1 ++ capture plainName ++ blanks ++ lit "("]

/-- The beginnings of lines that declare a class. -/
def classLines : List Pattern := [
  blanks ++ optWord "export" ++ optWord "default" ++
    opt (firstOf ((["public", "private", "internal"]).map fun word => lit word ++ blanks1)) ++
    many (firstOf ((["abstract", "static", "final", "sealed", "partial"]).map fun word =>
      lit word ++ blanks1)) ++
    lit "class" ++ blanks1 ++ capture scriptName,
  blanks ++ lit "type" ++ blanks1 ++ capture plainName ++ blanks1 ++ lit "struct" ++ wordEdge,
  blanks ++ visibility ++ lit "struct" ++ blanks1 ++ capture plainName]

/-- The name that the first fitting pattern finds at the start of a line. -/
def declaredName (patterns : List Pattern) (line : List Char) : Option (List Char) :=
  patterns.findSome? fun pattern => (pattern.begins line).map (·.part)

/-- What one line declares; signatures are looked up in the whole text. -/
def declaredOnLine (language : Option Language) (text : List Char) (number : Nat) (line : List Char) :
    Option Declaration :=
  match declaredName classLines line with
  | some name => some {
      name := String.ofList name, kind := .class, line := number
      signature := (Signature.ofClass language name text).getD "class".toList }
  | none =>
    (declaredName functionLines line).map fun name =>
      { name := String.ofList name, kind := .function, line := number
        signature := (Signature.ofFunction language name text).getD [] }

def lineDeclarations (language : Option Language) (text : List Char) : List Declaration :=
  ((Text.boundaryLines text).zipIdx 1).filterMap fun (line, number) =>
    declaredOnLine language text number line

end EditImpact.Inventory
