import EditImpact.Pattern.Build
import EditImpact.Scoring.Metric

/-!
Test validation: new logic should come with tests near it.
-/

namespace EditImpact.Scoring.Coverage

open Pattern

def newLogic : List Pattern :=
  [lit "function" ||| lit "class" ||| lit "=>" ||| (lit "if" ++ blanks ++ lit "(") |||
      (lit "for" ++ blanks ++ lit "(") ||| (lit "while" ++ blanks ++ lit "("),
    anyWord ["def ", "class ", "async def "]]

def testFile : Rule where
  id := "tests.test_file"
  check context :=
    if context.isTestFile then { delta := 10, tags := ["test_file", "bonus=10"] } else .clean

def coverage : Rule where
  id := "tests.coverage"
  check context :=
    if context.isTestFile then .clean
    else if !(newLogic.any (·.occurs context.changedCode)) then { tags := ["coverage=unknown"] }
    else
      match context.nearbyTests.length with
      | 0 =>
        { delta := -40
          issues := [⟨"No test coverage for changed code", context.firstChangedLine⟩]
          tags := ["new_logic", "coverage=none"] }
      | 1 =>
        { delta := -20
          issues := [⟨"Partial test coverage (<60%)", context.firstChangedLine⟩]
          tags := ["new_logic", "coverage=partial"] }
      | _ => { tags := ["new_logic", "coverage=good"] }

def summarize (findings : Findings) : String :=
  if findings.tags.contains "test_file" then "Test file detected - new tests covering new logic"
  else if findings.issues.isEmpty then "Tests appear present or unchanged"
  else "; ".intercalate (findings.issues.map (·.message))

def metric {Weight : Type} [Weighing Weight] : Metric Weight where
  name := .testValidation
  weight := Weighing.ofPercent 20
  groups := [⟨"test_validation", Weighing.ofPercent 100, [testFile, coverage]⟩]
  suggestions :=
    ["Add unit/integration tests for changed functions or branches",
      "Ensure meaningful assertions exist for new logic", "Rerun tests after fixing"]
  summarize := some summarize

end EditImpact.Scoring.Coverage
