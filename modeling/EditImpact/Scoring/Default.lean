import EditImpact.Scoring.Scorer
import EditImpact.Scoring.Rules.Contracts
import EditImpact.Scoring.Rules.Correctness
import EditImpact.Scoring.Rules.Coverage
import EditImpact.Scoring.Rules.Hygiene
import EditImpact.Scoring.Rules.Risk
import EditImpact.Scoring.Rules.Security

/-!
The metrics that edits are scored with.
-/

namespace EditImpact.Scoring

def defaultMetrics {Weight : Type} [Weighing Weight] : List (Metric Weight) :=
  [Correctness.metric, Security.metric, Coverage.metric, Contracts.metric, Risk.metric,
    Hygiene.metric]

/-- Every rule of the default metrics, in order. -/
def defaultRules : List Rule :=
  let metrics : List (Metric Float) := defaultMetrics
  metrics.flatMap fun metric => metric.groups.flatMap (·.rules)

/-- The confidence in an edit under the default metrics. -/
def score (context : Context) : Confidence Float := scoreWith defaultMetrics context

end EditImpact.Scoring
