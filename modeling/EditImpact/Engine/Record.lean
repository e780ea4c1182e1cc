import EditImpact.Engine.Basic
import EditImpact.Inventory.Record
import EditImpact.Scoring.Record

/-!
Analyses as data.
-/

namespace EditImpact

def Baseline.Resolution.toValue (resolution : Baseline.Resolution) : Value :=
  .map [("refType", .text resolution.kind.name),
    ("refName", Value.orNull .text resolution.refName),
    ("commitId", Value.orNull .text resolution.commit),
    ("availability", .text (if resolution.available then "available" else "unavailable")),
    ("reason", Value.orNull (fun reason => .text reason.text) resolution.reason)]

def Engine.Analysis.toValue (analysis : Engine.Analysis Float) : Value :=
  .map [("report", analysis.report.toValue), ("confidence", analysis.confidence.toValue),
    ("baseline", analysis.baseline.toValue), ("parseStatus", .text analysis.status.name),
    ("lineDelta", .map analysis.delta.fields)]

end EditImpact
