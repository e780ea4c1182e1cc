import EditImpact.Scoring.Context

/-!
Rules, groups of rules and metrics. A rule looks at an edit and answers with a change of score, the
issues behind it and tags. A group starts at 100 and takes in its rules one after the other; a metric
is the weighted mean of its groups.
-/

namespace EditImpact.Scoring

structure Issue where
  message : String
  line : Option Int := none
  deriving DecidableEq, Repr

/-- What one rule found. -/
structure Outcome where
  delta : Int := 0
  issues : List Issue := []
  tags : List String := []
  deriving DecidableEq, Repr

namespace Outcome

/-- Nothing found. -/
def clean : Outcome := {}

end Outcome

structure Rule where
  id : String
  check : Context → Outcome

inductive MetricName where
  | codeCorrectness
  | security
  | testValidation
  | contracts
  | changeRisk
  | codeHygiene
  deriving DecidableEq, Repr

namespace MetricName

def all : List MetricName :=
  [codeCorrectness, security, testValidation, contracts, changeRisk, codeHygiene]

def title : MetricName → String
  | codeCorrectness => "Code Correctness"
  | security => "Security"
  | testValidation => "Test Validation"
  | contracts => "Contracts & Architecture"
  | changeRisk => "Change Risk"
  | codeHygiene => "Code Hygiene"

def ofTitle? (title : String) : Option MetricName := all.find? (·.title == title)

end MetricName

/-- Numbers that scores are weighted with. -/
class Weighing (Weight : Type) where
  zero : Weight
  add : Weight → Weight → Weight
  /-- A score taken so many times as the weight says. -/
  scale : Int → Weight → Weight
  divide : Weight → Weight → Weight
  isPositive : Weight → Bool
  /-- The nearest whole score from 0 to 100; halves go up. -/
  nearestScore : Weight → Int
  ofPercent : Nat → Weight

/-- A whole score brought into the range from 0 to 100. -/
def clampScore (score : Int) : Int := max 0 (min 100 score)

/-- The nearest whole score to a double; halves go up. -/
def nearestScoreOfFloat (x : Float) : Int :=
  let floor := (x + 0.5).floor
  if floor ≤ 0 then 0 else if 100 ≤ floor then 100 else floor.toUInt64.toNat

instance : Weighing Float where
  zero := 0
  add := Float.add
  scale score weight := Float.ofInt score * weight
  divide := Float.div
  isPositive weight := 0 < weight
  nearestScore := nearestScoreOfFloat
  ofPercent n := Float.ofNat n / 100

structure RuleGroup (Weight : Type) where
  name : String
  weight : Weight
  rules : List Rule

structure SubMetric (Weight : Type) where
  name : String
  score : Int
  weight : Weight
  issues : List Issue

structure MetricResult (Weight : Type) where
  name : MetricName
  score : Int
  weight : Weight
  issues : List Issue
  subMetrics : List (SubMetric Weight)
  tags : List String
  summary : String
  suggestions : List String

/-- What the summary of a metric is made from. -/
structure Findings where
  score : Int
  issues : List Issue
  tags : List String

structure Metric (Weight : Type) where
  name : MetricName
  weight : Weight
  groups : List (RuleGroup Weight)
  suggestions : List String := []
  cleanSummary : String := ""
  summarize : Option (Findings → String) := none

inductive Status where
  | high
  | acceptable
  | warning
  | critical
  deriving DecidableEq, Repr

namespace Status

def name : Status → String
  | high => "high"
  | acceptable => "acceptable"
  | warning => "warning"
  | critical => "critical"

def ofTotal (total : Int) : Status :=
  if 85 < total then high else if 70 ≤ total then acceptable else if 50 ≤ total then warning
  else critical

end Status

structure Confidence (Weight : Type) where
  total : Int
  status : Status
  metrics : List (MetricResult Weight)
  changedLineCount : Nat

end EditImpact.Scoring
