import EditImpact.Scoring.Scorer
import EditImpact.Value.Basic

/-!
Scores as nested data.
-/

namespace EditImpact.Scoring

def Issue.toValue (issue : Issue) : Value :=
  .map [("message", .text issue.message), ("line", Value.orNull .int issue.line)]

def issuesValue (issues : List Issue) : Value := .list (issues.map Issue.toValue)

def Outcome.toValue (outcome : Outcome) : Value :=
  .map [("delta", .int outcome.delta), ("issues", issuesValue outcome.issues),
    ("tags", Value.texts outcome.tags)]

def SubMetric.toValue (sub : SubMetric Float) : Value :=
  .map [("name", .text sub.name), ("score", .int sub.score), ("weight", .float sub.weight),
    ("issues", issuesValue sub.issues)]

def MetricResult.toValue (result : MetricResult Float) : Value :=
  .map [("name", .text result.name.title), ("score", .int result.score),
    ("weight", .float result.weight), ("issues", issuesValue result.issues),
    ("sub_metrics", .list (result.subMetrics.map SubMetric.toValue)),
    ("tags", Value.texts result.tags), ("summary", .text result.summary),
    ("suggestions", Value.texts result.suggestions)]

def Confidence.toValue (confidence : Confidence Float) : Value :=
  .map [("total", .int confidence.total), ("status", .text confidence.status.name),
    ("metrics", .list (confidence.metrics.map MetricResult.toValue)),
    ("changed_line_count", .nat confidence.changedLineCount)]

end EditImpact.Scoring
