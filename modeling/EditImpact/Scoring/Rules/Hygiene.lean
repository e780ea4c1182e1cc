import EditImpact.Pattern.Build
import EditImpact.Scoring.Metric
import EditImpact.Scoring.Scorer
import EditImpact.Scoring.Rules.Correctness

/-!
Hygiene: layout, names and documentation. It carries no weight in the total.
-/

namespace EditImpact.Scoring.Hygiene

open Pattern

def trailingBlanks : Pattern := many1 (char (oneOf "\t ")) ++ textEnd

def visible : Pattern := anyWord ["export", "public"] ++ blanks1 ++ opt (lit "default" ++ blanks1)

def exportedClass : Pattern :=
  visible ++ opt (lit "abstract" ++ blanks1) ++ lit "class" ++ blanks1 ++ capture word1

def exportedFunction : Pattern :=
  visible ++ opt (lit "async" ++ blanks1) ++ lit "function" ++ blanks1 ++ capture word1

def docComment : Pattern := lit "/*" ||| lit "//" ||| lit "\"\"\""

def topLevelDef : Pattern :=
  textStart ++ opt (lit "async" ++ blanks1) ++ lit "def" ++ blanks1 ++
    capture (char ⟨letters, false, false⟩ ++ many wordChar)

def docString : Pattern :=
  textStart ++ blanks ++ opt (char (oneOf "rbuRBU")) ++ (lit "\"\"\"" ||| lit "'''")

/-- One check of the layout: a penalty, an issue and a tag if it finds something. -/
def finding (found : Bool) (penalty : Int) (message : String) (line : Option Int) (tag : String) :
    Outcome :=
  if found then ⟨penalty, [⟨message, line⟩], [tag]⟩ else .clean

def joinOutcomes (first second : Outcome) : Outcome :=
  ⟨first.delta + second.delta, first.issues ++ second.issues, first.tags ++ second.tags⟩

def formatting : Rule where
  id := "hygiene.formatting"
  check context :=
    let pairs := context.changedPairs
    let tabbed := pairs.filter (·.2.contains '\t')
    let trailing := pairs.filter fun pair => trailingBlanks.occurs pair.2
    let indents := (pairs.filter fun pair => !(Text.trim pair.2).isEmpty).map fun pair =>
      Correctness.leadingBlanks pair.2
    joinOutcomes
      (finding (!tabbed.isEmpty) (-10) "Tabs detected (use spaces)" (tabbed.head?.map (·.1)) "tabs")
      (joinOutcomes
        (finding (!trailing.isEmpty) (-5) "Trailing whitespace" (trailing.head?.map (·.1))
          "trailing-whitespace")
        (finding (2 < (distinct indents).length) (-5) "Inconsistent indentation"
          context.firstChangedLine "indentation"))

/-- The text without underscores at either end. -/
def withoutOuterUnderscores (text : List Char) : List Char :=
  ((text.dropWhile (· == '_')).reverse.dropWhile (· == '_')).reverse

/-- A name on the line that breaks the conventions, with what it names. -/
def oddName (text : List Char) : Option (String × List Char) :=
  let oddClass :=
    match exportedClass.search text with
    | some found => if found.part.head?.any Text.isLowerCase then some ("class", found.part) else none
    | none => none
  match oddClass with
  | some odd => some odd
  | none =>
    match exportedFunction.search text with
    | some found =>
      if (withoutOuterUnderscores found.part).contains '_' then some ("function", found.part) else none
    | none => none

def naming : Rule where
  id := "hygiene.naming"
  check context :=
    match context.changedPairs.findSome? fun (n, text) => (oddName text).map fun odd => (n, odd) with
    | none => .clean
    | some (n, kind, name) =>
      { delta := -5
        issues := [⟨"Potential naming convention issue: " ++ kind ++ " " ++ String.ofList name,
          some n⟩]
        tags := ["public-api-naming"] }

/-- The first exported function without a comment in the 200 characters before it. -/
def undocumentedExport (code : List Char) : Option (List Char) :=
  (exportedFunction.findAll code).findSome? fun found =>
    let before := (code.take found.start).drop (found.start - 200)
    if docComment.occurs before then none else some found.part

def endsInColon (line : List Char) : Bool := (Text.trimEnd line).getLast? == some ':'

/-- The first line with text after the line that ends a header; empty if there is none. -/
def firstBodyLine (fromHeader : List (List Char)) : Option (List Char) :=
  match fromHeader.dropWhile (!endsInColon ·) with
  | [] => none
  | _ :: body => some ((body.find? fun line => !(Text.trim line).isEmpty).getD [])

/-- The first changed module-level function whose body does not start with a documentation
string. -/
def undocumentedDef (context : Context) : Option (List Char) :=
  context.changedPairs.findSome? fun (n, text) =>
    match topLevelDef.begins text with
    | none => none
    | some header =>
      match firstBodyLine (context.lines.drop (n - 1).toNat) with
      | none => none
      | some body => if (docString.begins body).isSome then none else some header.part

def undocumented (context : Context) (name : List Char) : Outcome :=
  let declared := wordEdge ++ anyWord ["function", "def"] ++ blanks1 ++ chars name ++ wordEdge
  { delta := -10
    issues := [⟨"Missing documentation for " ++ String.ofList name,
      (context.linesMatching declared).head?⟩]
    tags := ["undocumented=" ++ String.ofList name] }

def documentation : Rule where
  id := "hygiene.documentation"
  check context :=
    match undocumentedExport context.changedCode with
    | some name => undocumented context name
    | none =>
      if context.language == some .python then
        match undocumentedDef context with
        | some name => undocumented context name
        | none => .clean
      else .clean

def metric {Weight : Type} [Weighing Weight] : Metric Weight where
  name := .codeHygiene
  weight := Weighing.ofPercent 0
  groups := [⟨"hygiene", Weighing.ofPercent 100, [formatting, naming, documentation]⟩]
  suggestions :=
    ["Run code formatter (Prettier, Black, etc.)", "Add docstrings for new functions",
      "Use clear commit messages following team conventions"]
  cleanSummary := "All good"

end EditImpact.Scoring.Hygiene
