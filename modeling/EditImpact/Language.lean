/-!
The languages that sources are written in, with the file names that belong to them.
-/

namespace EditImpact

/-- A language by name; `other` is a name without rules of its own. -/
inductive Language where
  | typescript
  | tsx
  | javascript
  | python
  | java
  | csharp
  | go
  | rust
  | other (name : String)
  deriving DecidableEq, Repr

namespace Language

def known : List Language := [typescript, tsx, javascript, python, java, csharp, go, rust]

def name : Language → String
  | typescript => "typescript"
  | tsx => "tsx"
  | javascript => "javascript"
  | python => "python"
  | java => "java"
  | csharp => "csharp"
  | go => "go"
  | rust => "rust"
  | other name => name

def ofName (name : String) : Language :=
  (known.find? (·.name == name)).getD (other name)

/-- The grammars that syntax trees are built with. -/
inductive Grammar where
  | typescript
  | tsx
  | javascript
  | python
  deriving DecidableEq, Repr

def Grammar.name : Grammar → String
  | .typescript => "typescript"
  | .tsx => "tsx"
  | .javascript => "javascript"
  | .python => "python"

/-- The grammar of a language; without one, declarations are read line by line. -/
def grammar : Language → Option Grammar
  | typescript => some .typescript
  | tsx => some .tsx
  | javascript => some .javascript
  | python => some .python
  | _ => none

/-- File name endings, with the dot and in lower case. -/
def extensions : Language → List String
  | typescript => [".ts", ".mts", ".cts"]
  | tsx => [".tsx"]
  | javascript => [".js", ".jsx", ".mjs", ".cjs"]
  | python => [".py", ".pyi"]
  | java => [".java"]
  | csharp => [".cs"]
  | go => [".go"]
  | rust => [".rs"]
  | other _ => []

/-- Globs of the test file names that are customary in a language. -/
def testGlobs : Language → List String
  | typescript => ["*.test.ts", "*.spec.ts"]
  | tsx => ["*.test.tsx", "*.spec.tsx"]
  | javascript => ["*.test.js", "*.spec.js", "*.test.jsx", "*.spec.jsx"]
  | python => ["test_*.py", "*_test.py"]
  | java => ["*Test.java", "*Tests.java", "test_*.java", "*_test.java"]
  | csharp => ["*Test.cs", "*Tests.cs", "*.test.cs", "*.spec.cs"]
  | go => ["*_test.go"]
  | rust => ["*_test.rs", "test_*.rs"]
  | other _ => []

/-- The language that a lower-case file name ending belongs to. -/
def ofExtension (ending : String) : Option Language :=
  known.find? (·.extensions.contains ending)

end Language

end EditImpact
