import EditImpact.Pattern.Build
import EditImpact.Scoring.Metric
import EditImpact.Scoring.Rules.Correctness

/-!
Security: secrets in the text, dangerous calls and input that nobody checks.
-/

namespace EditImpact.Scoring.Security

open Pattern

def quoteMark : Pattern := char (oneOf "'\"")

/-- A name, then a colon or an equals sign and an opening quote. -/
def assigned (name : Pattern) : Pattern :=
  name ++ blanks ++ char (oneOf ":=") ++ blanks ++ quoteMark

def keyChar : Pattern := char (setOf (letters ++ [.range '0' '9']) "_-")

/-- Two words that may be joined by an underscore or a dash. -/
def joined (first second : String) : Pattern := lit first ++ opt (char (oneOf "_-")) ++ lit second

def secretPatterns : List Pattern :=
  [assigned (joined "api" "key" ||| lit "apikey") ++ atLeast 8 keyChar ++ quoteMark,
    assigned (lit "secret" ||| joined "secret" "key" ||| lit "secretkey") ++ atLeast 8 keyChar ++
      quoteMark,
    assigned (lit "token" ||| joined "access" "token" ||| lit "bearer") ++ atLeast 20 keyChar ++
      quoteMark,
    assigned (anyWord ["password", "pwd", "passwd"]) ++ atLeast 6 anyChar ++ quoteMark,
    assigned (joined "private" "key" ||| lit "privatekey") ++ lit "-----BEGIN"].map ignoringCase

inductive Danger where
  | high
  | medium
  | low
  deriving DecidableEq, Repr

namespace Danger

def penalty : Danger → Int
  | high => -50
  | medium => -25
  | low => -10

def label : Danger → String
  | high => "High"
  | medium => "Medium"
  | low => "Low"

end Danger

def dangerousCalls : List (Pattern × Danger × String) :=
  [(Correctness.evalCall, .high, "eval() usage"),
    (Correctness.functionCall, .high, "Function() constructor"),
    (lit "innerHTML" ++ blanks ++ lit "=", .medium, "innerHTML assignment"),
    (lit "dangerouslySetInnerHTML", .medium, "dangerouslySetInnerHTML"),
    (Correctness.newFunctionCall, .high, "Function constructor"),
    (lit "document.write" ++ blanks ++ lit "(", .medium, "document.write()"),
    (lit "localStorage." ++ anyBut "=" ++ lit "=", .low, "localStorage write")]

def inputSources : List Pattern :=
  [(anyWord ["userInput", "req.body", "req.query", "req.params"]).ignoringCase,
    (anyWord ["getParameter", "getQueryString"]).ignoringCase]

def validation : Pattern := (anyWord ["validate", "sanitize", "escape", "encode"]).ignoringCase

def secrets : Rule where
  id := "security.secrets"
  check context :=
    match secretPatterns.findSome? fun pattern => (context.linesMatching pattern).head? with
    | none => .clean
    | some line =>
      { delta := Danger.high.penalty
        issues := [⟨"Hardcoded secret found", some line⟩]
        tags := ["vulnerability=High: Hardcoded secret detected"] }

/-- Each dangerous call that occurs, with the first line it occurs on. -/
def foundCalls (context : Context) : List (Danger × String × Int) :=
  dangerousCalls.filterMap fun (pattern, danger, label) =>
    (context.linesMatching pattern).head?.map fun line => (danger, label, line)

def dangerousApis : Rule where
  id := "security.dangerous_apis"
  check context :=
    let found := foundCalls context
    { delta := found.foldl (fun total (danger, _, _) => total + danger.penalty) 0
      issues := found.map fun (_, label, line) => ⟨label, some line⟩
      tags := found.map fun (danger, label, _) =>
        "vulnerability=" ++ danger.label ++ ": " ++ label }

def inputValidation : Rule where
  id := "security.input_validation"
  check context :=
    let code := context.changedCode
    if !(inputSources.any (·.occurs code)) || validation.occurs code then .clean
    else
      { delta := Danger.low.penalty
        issues := [⟨"Missing input validation",
          (inputSources.flatMap context.linesMatching).min?⟩]
        tags := ["vulnerability=Low: Potential missing input validation"] }

def summarize (findings : Findings) : String :=
  match findings.tags.countP (·.startsWith "vulnerability=") with
  | 0 => "No security issues detected"
  | count => toString count ++ " vulnerability/vulnerabilities found"

def metric {Weight : Type} [Weighing Weight] : Metric Weight where
  name := .security
  weight := Weighing.ofPercent 25
  groups := [⟨"security", Weighing.ofPercent 100, [secrets, dangerousApis, inputValidation]⟩]
  suggestions :=
    ["Remove secrets and store in environment variables",
      "Use secure API wrappers or sanitization libraries", "Update vulnerable dependencies",
      "Implement proper input validation"]
  summarize := some summarize

end EditImpact.Scoring.Security
