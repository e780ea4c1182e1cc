import EditImpact.Pattern.Build
import EditImpact.Scoring.Metric

/-!
Change risk: how large an edit is and how much control flow it adds.
-/

namespace EditImpact.Scoring.Risk

open Pattern

def controlFlow : Pattern :=
  anyWord ["if", "else", "for", "while", "switch", "catch", "try"] ++ blanks ++ lit "("

def changeSize : Rule where
  id := "risk.change_size"
  check context :=
    let size := context.delta.size
    let tags := ["change_size=" ++ toString size]
    if size ≤ 200 then { tags := tags }
    else
      { delta := -15
        issues := [⟨"Large change (" ++ toString size ++ " lines)", context.firstChangedLine⟩]
        tags := tags }

def complexityDelta : Rule where
  id := "risk.complexity_delta"
  check context :=
    let current := (controlFlow.findAll context.changedCode).length
    let before := (controlFlow.findAll (context.prior.getD [])).length
    let growth : Int := (current : Int) - before
    let tags := ["complexity_delta=" ++ toString growth]
    if growth ≤ 5 then { tags := tags }
    else
      { delta := -20
        issues := [⟨"Complexity spike (+" ++ toString growth ++ " control flow statements)",
          context.firstChangedLine⟩]
        tags := tags }

def largeEdit : Rule where
  id := "risk.large_edit"
  check context :=
    if context.delta.size ≤ 100 then .clean
    else
      { delta := -20
        issues := [⟨"High historical bug risk (large file change)", context.firstChangedLine⟩] }

def metric {Weight : Type} [Weighing Weight] : Metric Weight where
  name := .changeRisk
  weight := Weighing.ofPercent 10
  groups := [⟨"change_risk", Weighing.ofPercent 100, [changeSize, complexityDelta, largeEdit]⟩]
  suggestions :=
    ["Split large changes into smaller commits", "Add tests to high-risk modules",
      "Refactor to simplify complex logic"]
  cleanSummary := "Small change footprint"

end EditImpact.Scoring.Risk
