import EditImpact.Pattern.Build
import EditImpact.Scoring.Metric

/-!
Correctness: broken code, loose types, likely bugs, complexity, style and missing guards on the
changed lines.
-/

namespace EditImpact.Scoring.Correctness

open Pattern

/-- Whether a message holds one of the words, in any letter case. -/
def mentions (words : List String) (message : String) : Bool :=
  let lowered := Text.lower message.toList
  words.any fun word => Text.occursIn word.toList lowered

/-- The issues for the errors among the relevant diagnostics that satisfy `wanted`. -/
def errorIssues (context : Context) (label : String) (wanted : String → Bool) : List Issue :=
  (context.relevantDiagnostics.filter fun d => d.severity == .error && wanted d.message).map
    fun d => ⟨label ++ d.message, some d.line⟩

/-- A penalty for each issue. -/
def perIssue (penalty : Int) (issues : List Issue) : Outcome :=
  { delta := penalty * issues.length, issues := issues }

/-- The first of the lines, else the first changed line. -/
def firstOr (context : Context) (lines : List Int) : Option Int :=
  lines.head? <|> context.firstChangedLine

/-- One issue per line. -/
def issuesAt (message : String) (lines : List Int) : List Issue :=
  lines.map fun n => ⟨message, some n⟩

def leadingBlanks (text : List Char) : Nat := (text.takeWhile Text.isBlank).length

/-! ## Broken code -/

def brokenWords : List String :=
  ["syntax", "parse", "unexpected", "expected", "unclosed", "missing", "invalid", "illegal"]

def brokenDiagnostics : Rule where
  id := "correctness.syntax_diagnostics"
  check context := perIssue (-40) (errorIssues context "Syntax error: " (mentions brokenWords))

def conflictMarker : Pattern := lit "<<<<<<<" ||| lit ">>>>>>>" ||| lit "======="

def conflictMarkers : Rule where
  id := "correctness.conflict_markers"
  check context :=
    match context.linesMatching conflictMarker with
    | [] => .clean
    | lines =>
      { delta := -40
        issues := issuesAt "Merge conflict markers detected" lines
        tags := ["conflict_markers"] }

def isOpening (c : Char) : Bool := c == '(' || c == '[' || c == '\x7b'

def isClosing (c : Char) : Bool := c == ')' || c == ']' || c == '\x7d'

def functionHead : Pattern := lit "function" ++ blanks1 ++ word1 ++ blanks ++ lit "("

def functionHeadWithBrace : Pattern :=
  functionHead ++ anyBut ")" ++ lit ")" ++ blanks ++ lit "\x7b"

/-- A function head on a changed line with neither a brace after it nor a closing brace on the nine
lines that follow, unless the text ends soon. -/
def isSuspectHead (lines : List (List Char)) (pair : Int × List Char) : Bool :=
  functionHead.occurs pair.2 && !functionHeadWithBrace.occurs pair.2 &&
    !(((lines.drop pair.1.toNat).take 9).any (·.contains '\x7d')) &&
    pair.1 - 1 < (lines.length : Int) - 5

def bracketBalance : Rule where
  id := "correctness.bracket_balance"
  check context :=
    let pairs := context.changedPairs
    let lines := context.lines
    let opened := (pairs.flatMap (·.2)).countP isOpening
    let closed := (pairs.flatMap (·.2)).countP isClosing
    if ((opened : Int) - closed).natAbs ≤ 2 then .clean
    else
      let suspects := issuesAt "Function may be missing closing brace"
        ((pairs.filter (isSuspectHead lines)).map (·.1))
      let whole : Issue :=
        ⟨"Potential unclosed brackets/braces (" ++ toString opened ++ " open, " ++ toString closed ++
          " close)", context.firstChangedLine⟩
      { delta := -20, issues := if suspects.isEmpty then [whole] else suspects }

/-! ## Types -/

def typeWords : List String :=
  ["type", "typing", "incompatible", "assignment", "property", "method", "parameter", "argument"]

def typeDiagnostics : Rule where
  id := "correctness.type_diagnostics"
  check context := perIssue (-20) (errorIssues context "Type error: " (mentions typeWords))

def explicitAny : Pattern := lit ":" ++ blanks ++ lit "any" ++ wordEdge

def functionParams : Pattern :=
  functionHead ++ capture (anyBut ")") ++ lit ")" ++ blanks ++ lit "\x7b"

def arrowParams : Pattern := lit "(" ++ capture (anyBut ")") ++ lit ")" ++ blanks ++ lit "=>"

/-- Parameters are there and none of them has a type. -/
def isUntyped (params : List Char) : Bool :=
  let trimmed := Text.trim params
  !trimmed.isEmpty && !trimmed.contains ':'

/-- The loose type on a line, if any. -/
def untypedIssue (pair : Int × List Char) : Option Issue :=
  if explicitAny.occurs pair.2 then some ⟨"Explicit any type", some pair.1⟩
  else
    match functionParams.search pair.2 with
    | some found =>
      if isUntyped found.part then
        some ⟨"Function without types: parameters without types", some pair.1⟩
      else none
    | none =>
      match arrowParams.search pair.2 with
      | some found =>
        if isUntyped found.part then
          some ⟨"Arrow function without types: parameters without types", some pair.1⟩
        else none
      | none => none

def untyped : Rule where
  id := "correctness.untyped"
  check context :=
    if context.language != some .typescript && context.language != some .tsx then .clean
    else
      match context.changedPairs.filterMap untypedIssue with
      | [] => .clean
      | issues => { delta := -(min 15 (5 * issues.length) : Nat), issues := issues.take 10 }

def memberAccess : Pattern :=
  (lit "." ++ word1 ++ blanks ++ char (oneOf "([")) ||| lit "["

/-- A guard word with a parenthesis, and later on the line one of the given marks. -/
def guardBefore (words : List String) (marks : List String) : Pattern :=
  (anyWord words ++ blanks ++ lit "(" ++ few anyChar ++ anyWord marks).ignoringCase

def nullGuard : Pattern :=
  guardBefore ["if", "assert", "check", "guard", "validate"] ["null", "undefined"]

def unguardedAccess : Rule where
  id := "correctness.unguarded_access"
  check context :=
    if nullGuard.occurs context.changedCode then .clean
    else
      match context.linesMatching memberAccess with
      | [] => .clean
      | lines =>
        { delta := -10
          issues := issuesAt "Potential null/undefined access without checks" (lines.take 3) }

/-! ## Likely bugs -/

def errorDiagnostics : Rule where
  id := "correctness.error_diagnostics"
  check context := perIssue (-40) (errorIssues context "Critical error: " fun _ => true)

/-- A line break after a statement, then more code before a closing brace. -/
def codeAfter : Pattern :=
  lit ";" ++ blanks ++ many1 (char (oneOf "\r\n")) ++ anyBut "\x7d" ++
    char ⟨[.blank, .one ';', .one '\x7d'], true, false⟩

def unreachable : List Pattern :=
  [lit "return" ++ blanks1 ++ many anyChar ++ codeAfter,
    lit "throw" ++ blanks1 ++ many anyChar ++ codeAfter,
    lit "break" ++ blanks ++ codeAfter]

def exitStatement : Pattern :=
  (lit "return" ++ blanks1) ||| (lit "throw" ++ blanks1) ||| (lit "break" ++ blanks)

def unreachableCode : Rule where
  id := "correctness.unreachable_code"
  check context :=
    if unreachable.any (·.occurs context.changedCode) then
      { delta := -20
        issues := [⟨"Potential unreachable code detected",
          firstOr context (context.linesMatching exitStatement)⟩] }
    else .clean

def typedFunction : Pattern :=
  (functionHead ++ anyBut ")" ++ lit ")" ++ blanks ++ lit ":" ++ blanks ++ word1 ++ blanks ++
      lit "\x7b") |||
    (lit ":" ++ blanks ++ lit "Promise<" ++ word1 ++ lit ">")

def firstBlock : Pattern := lit "\x7b" ++ anyBut "\x7d" ++ lit "\x7d"

def returnStatement : Pattern := lit "return" ++ blanks1

def missingReturn : Rule where
  id := "correctness.missing_return"
  check context :=
    let code := context.changedCode
    if typedFunction.occurs code then
      match firstBlock.search code with
      | none => .clean
      | some body =>
        if returnStatement.occurs body.text then .clean
        else
          { delta := -20
            issues := [⟨"Function may be missing return statement",
              firstOr context (context.linesMatching functionHead)⟩] }
    else .clean

def evalCall : Pattern := wordEdge ++ lit "eval" ++ blanks ++ lit "("

def functionCall : Pattern := wordEdge ++ lit "Function" ++ blanks ++ lit "("

def newFunctionCall : Pattern :=
  wordEdge ++ lit "new" ++ blanks1 ++ lit "Function" ++ blanks ++ lit "("

def dynamicCalls : List (Pattern × String) :=
  [(evalCall, "eval()"), (newFunctionCall, "new Function()"), (functionCall, "Function()")]

def dynamicEval : Rule where
  id := "correctness.dynamic_eval"
  check context :=
    let issues := context.changedPairs.filterMap fun pair =>
      (dynamicCalls.find? fun call => call.1.occurs pair.2).map fun call =>
        (⟨"Unsafe " ++ call.2 ++ " detected", some pair.1⟩ : Issue)
    if issues.isEmpty then .clean
    else { delta := -40, issues := issues, tags := ["dynamic_eval"] }

/-! ## Complexity -/

def branch : Pattern :=
  (wordEdge ++ anyWord ["if", "for", "while", "switch", "catch", "case"] ++ wordEdge) |||
    lit "&&" ||| lit "||"

def controlFlow : Rule where
  id := "correctness.control_flow"
  check context :=
    let count := (branch.findAll context.changedCode).length
    if count ≤ 5 then .clean
    else
      { delta := -15
        issues := [⟨"High complexity (" ++ toString count ++ " control flow statements)",
          firstOr context (context.linesMatching branch)⟩] }

/-- The greatest indentation so far and the first line that has it. -/
def deepest (pairs : List (Int × List Char)) : Nat × Option Int :=
  pairs.foldl (fun best pair =>
    let depth := leadingBlanks pair.2
    if best.1 < depth then (depth, some pair.1) else best) (0, none)

def nesting : Rule where
  id := "correctness.nesting"
  check context :=
    let (depth, line) := deepest context.changedPairs
    if depth ≤ 20 then .clean
    else
      { delta := -10
        issues := [⟨"Deeply nested code detected (indentation " ++ toString depth ++ " spaces > 20)",
          line⟩] }

def diffSize : Rule where
  id := "correctness.diff_size"
  check context :=
    let count := context.changedLines.length
    if count ≤ 50 then .clean
    else
      { delta := -10
        issues := [⟨"Large change (" ++ toString count ++ " lines) - consider splitting",
          context.firstChangedLine⟩] }

/-- The start of a line that is long enough to compare. -/
def repeatKey (text : List Char) : Option (List Char) :=
  let trimmed := Text.trim text
  if 10 < trimmed.length then some (trimmed.take 40) else none

/-- The lines with the same start as the first line whose start occurs more than twice. -/
def repeatedLines (keyed : List (Int × List Char)) : Option (List Int) :=
  keyed.findSome? fun (_, key) =>
    let same := (keyed.filter (·.2 == key)).map (·.1)
    if 2 < same.length then some same else none

def repetition : Rule where
  id := "correctness.repetition"
  check context :=
    let keyed := context.changedPairs.filterMap fun (n, text) => (repeatKey text).map fun key => (n, key)
    match repeatedLines keyed with
    | none => .clean
    | some lines =>
      { delta := -5
        issues := [⟨"Potential code duplication detected (" ++ toString lines.length ++
          " occurrences)", lines.head?⟩] }

/-! ## Style -/

def camelCase : Pattern :=
  many1 (char ⟨[.range 'a' 'z'], false, false⟩) ++ char ⟨[.range 'A' 'Z'], false, false⟩

def snakeCase : Pattern :=
  many1 (char ⟨[.range 'a' 'z'], false, false⟩) ++ lit "_" ++ char ⟨[.range 'a' 'z'], false, false⟩

def magicNumber : Pattern := wordEdge ++ atLeast 3 digitChar ++ wordEdge

def numericConst : Pattern :=
  lit "const" ++ blanks1 ++ word1 ++ blanks ++ lit "=" ++ blanks ++ digitChar

/-- Takes in one diagnostic: warnings always count as an issue, hints only on a line without one. -/
def styleStep (outcome : Outcome) (d : Diagnostic) : Outcome :=
  match d.severity with
  | .error => outcome
  | .warning =>
    { outcome with
      delta := outcome.delta - 10
      issues := outcome.issues ++ [⟨"Style violation: " ++ d.message, some d.line⟩] }
  | _ =>
    { outcome with
      delta := outcome.delta - 3
      issues :=
        if outcome.issues.any (·.line == some d.line) then outcome.issues
        else outcome.issues ++ [⟨"Style hint: " ++ d.message, some d.line⟩] }

def styleDiagnostics : Rule where
  id := "correctness.style_diagnostics"
  check context := context.relevantDiagnostics.foldl styleStep .clean

def mixedNaming : Rule where
  id := "correctness.mixed_naming"
  check context :=
    let code := context.changedCode
    if camelCase.occurs code && snakeCase.occurs code then
      let lines :=
        match context.linesMatching camelCase with
        | [] => context.linesMatching snakeCase
        | lines => lines
      { delta := -5
        issues := [⟨"Inconsistent naming convention (mixing camelCase and snake_case)",
          firstOr context lines⟩] }
    else .clean

def magicNumbers : Rule where
  id := "correctness.magic_numbers"
  check context :=
    if numericConst.occurs context.changedCode then .clean
    else
      match context.linesMatching magicNumber with
      | [] => .clean
      | lines =>
        { delta := -5
          issues := issuesAt "Magic numbers detected - consider using named constants"
            (lines.take 3) }

/-! ## Guards -/

def guarded : Pattern := guardBefore ["if", "assert", "guard", "check"] ["null", "undefined", "??"]

def validation : Pattern := (anyWord ["validate", "sanitize", "check", "assert"]).ignoringCase

def errorHandling : Pattern := (anyWord ["try", "catch", "error", "exception"]).ignoringCase

def guardNearby : Pattern :=
  anyWord ["if", "assert", "guard", "check", "validate"] ++ blanks ++ lit "("

def asyncWork : Pattern := anyWord ["async", "await", "Promise"]

def riskyCalls : List (Pattern × String) :=
  [(lit ".get" ++ blanks ++ lit "(", "Array/Map.get()"),
    (lit "[" ++ many1 (char (noneOf "]")) ++ lit "]", "Array/index access"),
    (lit ".split" ++ blanks ++ lit "(", "String.split()"),
    (lit "JSON.parse", "JSON.parse()"),
    (evalCall, "eval()"),
    (functionCall, "Function()")]

/-- Risky calls on changed lines without a guard on the five lines before. -/
def unguardedCalls (context : Context) : List Issue :=
  riskyCalls.flatMap fun (pattern, label) =>
    issuesAt (label ++ " without safety guards")
      ((context.linesMatching pattern).filter fun n =>
        !guardNearby.occurs (context.windowBefore n 5))

def riskyOperations : Rule where
  id := "correctness.risky_operations"
  check context :=
    let code := context.changedCode
    if code.isEmpty then .clean
    else
      let hasGuards := guarded.occurs code
      let unguarded := unguardedCalls context
      if !unguarded.isEmpty && !hasGuards then { delta := -15, issues := unguarded.take 5 }
      else if hasGuards || validation.occurs code then { delta := 5, tags := ["guards_present"] }
      else .clean

def unhandledAsync : Rule where
  id := "correctness.unhandled_async"
  check context :=
    let code := context.changedCode
    if errorHandling.occurs code || !asyncWork.occurs code then .clean
    else
      { delta := -5
        issues := issuesAt "Async operations without error handling"
          ((context.linesMatching asyncWork).take 3) }

def summarize (findings : Findings) : String :=
  let count := toString findings.issues.length
  if 90 ≤ findings.score then "Excellent correctness - safe to commit"
  else if 70 ≤ findings.score then count ++ " minor issue(s) found - review recommended"
  else if 50 ≤ findings.score then "Noticeable risk - " ++ count ++ " issue(s) found"
  else "Critical problems - " ++ count ++ " issue(s) - block commit"

def metric {Weight : Type} [Weighing Weight] : Metric Weight where
  name := .codeCorrectness
  weight := Weighing.ofPercent 10
  groups :=
    [⟨"syntax", Weighing.ofPercent 25, [brokenDiagnostics, conflictMarkers, bracketBalance]⟩,
      ⟨"type_safety", Weighing.ofPercent 20, [typeDiagnostics, untyped, unguardedAccess]⟩,
      ⟨"static_bugs", Weighing.ofPercent 25,
        [errorDiagnostics, unreachableCode, missingReturn, dynamicEval]⟩,
      ⟨"complexity", Weighing.ofPercent 15, [controlFlow, nesting, diffSize, repetition]⟩,
      ⟨"style", Weighing.ofPercent 10, [styleDiagnostics, mixedNaming, magicNumbers]⟩,
      ⟨"safety_guards", Weighing.ofPercent 5, [riskyOperations, unhandledAsync]⟩]
  suggestions :=
    ["Fix syntax and type errors before commit", "Remove unused or unsafe constructs",
      "Simplify control flow or refactor complex expressions", "Run auto-fix or apply style guide",
      "Add validation and null guards where needed"]
  summarize := some summarize

end EditImpact.Scoring.Correctness
