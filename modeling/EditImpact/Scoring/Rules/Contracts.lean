import EditImpact.Scoring.Metric
import EditImpact.Signature.Extract

/-!
Contracts: exported declarations whose signature changed, imports across layers and edits of a
database schema.
-/

namespace EditImpact.Scoring.Contracts

open Pattern

def exportWord : Pattern := wordEdge ++ lit "export" ++ blanks1

def optionalWord (word : String) : Pattern := opt (lit word ++ blanks1)

/-- Declarations that other files can use; the captured part is the name. -/
def exportedDeclarations : List Pattern :=
  [exportWord ++ optionalWord "default" ++ optionalWord "async" ++ lit "function" ++ blanks ++
      opt (lit "*") ++ blanks ++ capture scriptName,
    exportWord ++ optionalWord "default" ++ optionalWord "abstract" ++ lit "class" ++ blanks1 ++
      capture scriptName,
    exportWord ++ anyWord ["const", "let", "var"] ++ blanks1 ++ capture scriptName,
    wordEdge ++ lit "module.exports" ++ blanks ++ lit "=" ++ blanks ++
      anyWord ["function", "class"] ++ blanks ++ capture scriptName,
    wordEdge ++ lit "exports." ++ capture scriptName ++ blanks ++ lit "=",
    wordEdge ++ lit "public" ++ blanks1 ++ optionalWord "static" ++ optionalWord "abstract" ++
      optionalWord "final" ++ anyWord ["class", "interface", "enum"] ++ blanks1 ++ capture word1,
    textStart ++ lit "func" ++ blanks1 ++ opt (lit "(" ++ anyBut ")" ++ lit ")" ++ blanks) ++
      capture (char ⟨[.range 'A' 'Z'], false, false⟩ ++ many wordChar) ++ blanks ++ lit "(",
    textStart ++ blanks ++ lit "pub" ++ blanks1 ++ optionalWord "async" ++ lit "fn" ++ blanks1 ++
      capture word1]

/-- A name that starts with an ASCII letter. -/
def letterName : Pattern := char ⟨letters, false, false⟩ ++ many wordChar

def moduleDeclarations : List Pattern :=
  [textStart ++ optionalWord "async" ++ lit "def" ++ blanks1 ++ capture letterName,
    textStart ++ lit "class" ++ blanks1 ++ capture letterName]

def layerViolations : List (Pattern × String) :=
  [(lit "from" ++ blanks1 ++ char (oneOf "'\"") ++ lit "../../..", "Deep cross-layer import"),
    (lit "import" ++ many anyChar ++ char (oneOf "'\"") ++ lit "../../models",
      "Direct model access from UI layer")]

def schemaEdit : Pattern :=
  (anyWord ["migration", "ALTER TABLE", "DROP TABLE", "CREATE TABLE"]).ignoringCase

/-- Keeps the first pair for each name. -/
def firstSightings : List (List Char × Int) → List (List Char × Int)
  | [] => []
  | pair :: rest => pair :: (firstSightings rest).filter (·.1 != pair.1)

/-- The names declared for export on changed lines, each with the first line it stands on. -/
def exportedNames (context : Context) : List (List Char × Int) :=
  let patterns :=
    if context.language == some .python then moduleDeclarations else exportedDeclarations
  firstSightings (context.changedPairs.flatMap fun (n, text) =>
    patterns.flatMap fun pattern => (pattern.findAll text).map fun found => (found.part, n))

/-- Whether a name has different signatures in two texts. It is compared as a function unless
neither text has such a function, and then as a class. -/
def signatureChanged (language : Option Language) (name prior current : List Char) : Bool :=
  match Signature.ofFunction language name prior, Signature.ofFunction language name current with
  | none, none =>
    match Signature.ofClass language name prior, Signature.ofClass language name current with
    | some old, some new => old != new
    | _, _ => false
  | some old, some new => old != new
  | _, _ => false

def breakingApi : Rule where
  id := "contracts.breaking_api"
  check context :=
    match context.prior with
    | none => .clean
    | some prior =>
      match (exportedNames context).find? fun (name, _) =>
        signatureChanged context.language name prior context.current with
      | none => .clean
      | some (name, line) =>
        { delta := -40
          issues := [⟨"Breaking change in public API: " ++ String.ofList name, some line⟩]
          tags := ["breaking=" ++ String.ofList name] }

def architecture : Rule where
  id := "contracts.architecture"
  check context :=
    let issues := layerViolations.filterMap fun (pattern, label) =>
      (context.linesMatching pattern).head?.map fun line => (⟨label, some line⟩ : Issue)
    { delta := -20 * issues.length, issues := issues }

def schemaChange : Rule where
  id := "contracts.schema_change"
  check context :=
    match context.linesMatching schemaEdit with
    | [] => .clean
    | line :: _ =>
      { delta := -15
        issues := [⟨"Database schema change detected", some line⟩]
        tags := ["backward_incompatible"] }

def metric {Weight : Type} [Weighing Weight] : Metric Weight where
  name := .contracts
  weight := Weighing.ofPercent 15
  groups := [⟨"contracts", Weighing.ofPercent 100, [breakingApi, architecture, schemaChange]⟩]
  suggestions :=
    ["Maintain backward-compatible function signatures",
      "Avoid cross-layer imports or hidden coupling", "Document breaking changes clearly"]
  cleanSummary := "No obvious breaking changes"

end EditImpact.Scoring.Contracts
