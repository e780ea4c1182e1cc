import EditImpact.Scoring.Metric

/-!
Scoring an edit: groups fold their rules, metrics average their groups, the total averages the
metrics.
-/

namespace EditImpact.Scoring

variable {Weight : Type} [Weighing Weight]

def sumWeights (weights : List Weight) : Weight := weights.foldl Weighing.add Weighing.zero

/-- The weighted mean of scores; the weights have a positive sum. -/
def weightedMean (scored : List (Int × Weight)) : Int :=
  let weighted := scored.map fun (score, weight) => Weighing.scale score weight
  Weighing.nearestScore
    (Weighing.divide (sumWeights weighted) (sumWeights (scored.map (·.2))))

/-- The total of weighted scores, 100 when nothing has weight. -/
def aggregate (scored : List (Int × Weight)) : Int :=
  if Weighing.isPositive (sumWeights (scored.map (·.2))) then weightedMean scored else 100

/-- The outcomes of a group's rules, in order. -/
def RuleGroup.outcomes (group : RuleGroup Weight) (context : Context) : List Outcome :=
  group.rules.map (·.check context)

/-- A score of 100 after all deltas, brought back into range after each. -/
def foldDeltas (deltas : List Int) : Int :=
  deltas.foldl (fun score delta => clampScore (score + delta)) 100

def RuleGroup.evaluate (group : RuleGroup Weight) (context : Context) : SubMetric Weight :=
  let outcomes := group.outcomes context
  { name := group.name
    score := foldDeltas (outcomes.map (·.delta))
    weight := group.weight
    issues := outcomes.flatMap (·.issues) }

def RuleGroup.tags (group : RuleGroup Weight) (context : Context) : List String :=
  (group.outcomes context).flatMap (·.tags)

/-- The score of a metric from its groups: one group alone, or groups without weight, count as the
first group does. -/
def combineGroups (subs : List (SubMetric Weight)) : Int :=
  let scored := subs.map fun sub => (sub.score, sub.weight)
  match subs with
  | [] => 100
  | [sub] => sub.score
  | sub :: _ =>
    if Weighing.isPositive (sumWeights (scored.map (·.2))) then weightedMean scored else sub.score

/-- Each item once, where it first occurs. -/
def distinct {Item : Type} [BEq Item] : List Item → List Item
  | [] => []
  | item :: rest => item :: (distinct rest).filter (· != item)

def Metric.evaluate (metric : Metric Weight) (context : Context) : MetricResult Weight :=
  let subs := metric.groups.map (·.evaluate context)
  let score := combineGroups subs
  let issues := subs.flatMap (·.issues)
  let tags := distinct (metric.groups.flatMap (·.tags context))
  { name := metric.name
    score := score
    weight := metric.weight
    issues := issues
    subMetrics := if 1 < subs.length then subs else []
    tags := tags
    suggestions := metric.suggestions
    summary :=
      match metric.summarize with
      | some summarize => summarize ⟨score, issues, tags⟩
      | none =>
        if issues.isEmpty then metric.cleanSummary
        else "; ".intercalate (issues.map (·.message)) }

def scoreWith (metrics : List (Metric Weight)) (context : Context) : Confidence Weight :=
  let results := metrics.map (·.evaluate context)
  let total := aggregate (results.map fun result => (result.score, result.weight))
  { total := total
    status := Status.ofTotal total
    metrics := results
    changedLineCount := context.changedLines.length }

/-- The result of the first metric of that name. -/
def Confidence.metric? (confidence : Confidence Weight) (name : MetricName) :
    Option (MetricResult Weight) :=
  confidence.metrics.find? (·.name == name)

end EditImpact.Scoring
