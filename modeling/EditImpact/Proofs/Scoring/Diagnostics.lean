import EditImpact.Proofs.Scoring.Defaults
import EditImpact.Proofs.Scoring.Mean
import EditImpact.Proofs.Scoring.Penalties

/-!
# Diagnostics only cost points

Four rules of the default metrics read the diagnostics of other tools. Each of them charges every
diagnostic that covers a changed line for itself, by its severity and its words; only which issues
the rule on style lists is up to their order. So no score grows with further diagnostics, and none
changes with their order (`scores_fall_with_diagnostics`).
-/

namespace EditImpact.Scoring

set_option autoImplicit false

/-- The edit with these diagnostics for its own. -/
def Context.withDiagnostics (context : Context) (diagnostics : List Diagnostic) : Context :=
  { context with diagnostics := diagnostics }

/-- The rule does not look at diagnostics. -/
def Rule.Undiagnosed (rule : Rule) : Prop :=
  ∀ context diagnostics, rule.check (context.withDiagnostics diagnostics) = rule.check context

/-- The rule charges each diagnostic on a changed line for itself. -/
structure Rule.Charges (rule : Rule) (cost : Diagnostic → Int) : Prop where
  nonpos : ∀ diagnostic, cost diagnostic ≤ 0
  delta_eq : ∀ context, (rule.check context).delta = (context.relevantDiagnostics.map cost).sum

/-! ## What more diagnostics cost -/

section More

variable {few many : List Diagnostic} (more : few.Subperm many)

include more

theorem relevant_subperm (context : Context) :
    (context.withDiagnostics few).relevantDiagnostics.Subperm
      (context.withDiagnostics many).relevantDiagnostics := more.filter _

theorem cost_falls {cost : Diagnostic → Int} (nonpos : ∀ diagnostic, cost diagnostic ≤ 0) :
    (many.map cost).sum ≤ (few.map cost).sum := by
  -- the diagnostics in common, in another order, and those that come on top
  obtain ⟨same, perm, sublist⟩ := more
  obtain ⟨rest, split⟩ := sublist.exists_perm_append
  have restCost := sum_of_costs_nonpos nonpos rest
  calc (many.map cost).sum = (same.map cost).sum + (rest.map cost).sum := by
        rw [(split.map cost).sum_eq, List.map_append, List.sum_append]
    _ ≤ (same.map cost).sum := by omega
    _ = (few.map cost).sum := (perm.map cost).sum_eq

theorem Rule.Charges.falls {rule : Rule} {cost : Diagnostic → Int} (charges : rule.Charges cost)
    (context : Context) :
    (rule.check (context.withDiagnostics many)).delta ≤
      (rule.check (context.withDiagnostics few)).delta := by
  rw [charges.delta_eq, charges.delta_eq]
  exact cost_falls (relevant_subperm more context) charges.nonpos

end More

/-! ## Rules that charge -/

namespace Correctness

/-- A penalty for an error with the wanted words. -/
def errorCost (penalty : Int) (wanted : String → Bool) (d : Diagnostic) : Int :=
  if d.severity == .error && wanted d.message then penalty else 0

/-- What the rule on style takes for a diagnostic. -/
def styleCost (d : Diagnostic) : Int :=
  match d.severity with
  | .error => 0
  | .warning => -10
  | _ => -3

theorem error_issues_cost (penalty : Int) (context : Context) (label : String)
    (wanted : String → Bool) :
    (perIssue penalty (errorIssues context label wanted)).delta =
      (context.relevantDiagnostics.map (errorCost penalty wanted)).sum := by
  let chosen := context.relevantDiagnostics.filter fun d => d.severity == .error && wanted d.message
  have charged : (chosen.map fun _ => penalty).sum = penalty * chosen.length := by
    rw [List.map_const', List.sum_replicate, nsmul_eq_mul, mul_comm]
  have spared (others : List Diagnostic) : (others.map fun _ => (0 : Int)).sum = 0 := by simp
  calc (perIssue penalty (errorIssues context label wanted)).delta
      = penalty * chosen.length := by rw [perIssue, errorIssues, List.length_map]
    _ = (chosen.map fun _ => penalty).sum := charged.symm
    _ = (context.relevantDiagnostics.map (errorCost penalty wanted)).sum := by
        unfold errorCost
        rw [List.sum_map_ite, spared, add_zero]
        simp only [Bool.decide_eq_true, chosen]

theorem error_cost_nonpos {penalty : Int} (negative : penalty ≤ 0) (wanted : String → Bool)
    (d : Diagnostic) : errorCost penalty wanted d ≤ 0 := by
  unfold errorCost
  split
  · exact negative
  · exact le_rfl

theorem broken_diagnostics_charge :
    brokenDiagnostics.Charges (errorCost (-40) (mentions brokenWords)) :=
  ⟨error_cost_nonpos (by decide) _, fun context => error_issues_cost _ context _ _⟩

theorem type_diagnostics_charge :
    typeDiagnostics.Charges (errorCost (-20) (mentions typeWords)) :=
  ⟨error_cost_nonpos (by decide) _, fun context => error_issues_cost _ context _ _⟩

theorem error_diagnostics_charge :
    errorDiagnostics.Charges (errorCost (-40) fun _ => true) :=
  ⟨error_cost_nonpos (by decide) _, fun context => error_issues_cost _ context _ _⟩

/-- Whether its issue is listed or left out, a diagnostic costs the same. -/
theorem style_step_delta (outcome : Outcome) (d : Diagnostic) :
    (styleStep outcome d).delta = outcome.delta + styleCost d := by
  unfold styleStep styleCost
  split <;> simp [sub_eq_add_neg, *]

theorem style_steps_delta (diagnostics : List Diagnostic) (outcome : Outcome) :
    (diagnostics.foldl styleStep outcome).delta =
      outcome.delta + (diagnostics.map styleCost).sum := by
  induction diagnostics generalizing outcome with
  | nil => exact (add_zero outcome.delta).symm
  | cons d rest induction =>
      rw [List.foldl_cons, induction, style_step_delta, List.map_cons, List.sum_cons, add_assoc]

theorem style_diagnostics_charge : styleDiagnostics.Charges styleCost := by
  constructor
  · intro d
    unfold styleCost
    split <;> decide
  · intro context
    exact (style_steps_delta _ _).trans (zero_add _)

end Correctness

/-! ## The default rules -/

/-- The rule charges diagnostics, or it does not look at them. -/
def Rule.Fair (rule : Rule) : Prop := rule.Undiagnosed ∨ ∃ cost, rule.Charges cost

/-- Only the rules on errors and on style look at diagnostics. What the other ones read of an edit
is left as it is by other diagnostics. -/
theorem default_rules_fair : EveryDefaultRule Rule.Fair where
  syntactic := by
    simp only [List.forall_mem_cons]
    exact ⟨.inr ⟨_, Correctness.broken_diagnostics_charge⟩, .inl fun _ _ => rfl,
      .inl fun _ _ => rfl, by simp⟩
  types := by
    simp only [List.forall_mem_cons]
    exact ⟨.inr ⟨_, Correctness.type_diagnostics_charge⟩, .inl fun _ _ => rfl,
      .inl fun _ _ => rfl, by simp⟩
  bugs := by
    simp only [List.forall_mem_cons]
    exact ⟨.inr ⟨_, Correctness.error_diagnostics_charge⟩, .inl fun _ _ => rfl,
      .inl fun _ _ => rfl, .inl fun _ _ => rfl, by simp⟩
  complexity := by
    simp only [List.forall_mem_cons]
    exact ⟨.inl fun _ _ => rfl, .inl fun _ _ => rfl, .inl fun _ _ => rfl, .inl fun _ _ => rfl,
      by simp⟩
  style := by
    simp only [List.forall_mem_cons]
    exact ⟨.inr ⟨_, Correctness.style_diagnostics_charge⟩, .inl fun _ _ => rfl,
      .inl fun _ _ => rfl, by simp⟩
  guards := by
    simp only [List.forall_mem_cons]
    exact ⟨.inl fun _ _ => rfl, .inl fun _ _ => rfl, by simp⟩
  security := by
    simp only [List.forall_mem_cons]
    exact ⟨.inl fun _ _ => rfl, .inl fun _ _ => rfl, .inl fun _ _ => rfl, by simp⟩
  coverage := by
    simp only [List.forall_mem_cons]
    exact ⟨.inl fun _ _ => rfl, .inl fun _ _ => rfl, by simp⟩
  contracts := by
    simp only [List.forall_mem_cons]
    exact ⟨.inl fun _ _ => rfl, .inl fun _ _ => rfl, .inl fun _ _ => rfl, by simp⟩
  risk := by
    simp only [List.forall_mem_cons]
    exact ⟨.inl fun _ _ => rfl, .inl fun _ _ => rfl, .inl fun _ _ => rfl, by simp⟩
  hygiene := by
    simp only [List.forall_mem_cons]
    exact ⟨.inl fun _ _ => rfl, .inl fun _ _ => rfl, .inl fun _ _ => rfl, by simp⟩

theorem Rule.Fair.falls {rule : Rule} (fair : rule.Fair) {few many : List Diagnostic}
    (more : few.Subperm many) (context : Context) :
    (rule.check (context.withDiagnostics many)).delta ≤
      (rule.check (context.withDiagnostics few)).delta := by
  rcases fair with undiagnosed | ⟨cost, charges⟩
  · rw [undiagnosed, undiagnosed]
  · exact charges.falls more context

/-! ## The default scores -/

theorem percent_nonneg (n : Nat) : 0 ≤ (Weighing.ofPercent n : ℚ) :=
  div_nonneg n.cast_nonneg (by norm_num)

theorem default_weights_nonneg :
    ∀ metric ∈ (defaultMetrics : List (Metric ℚ)), metric.NonnegWeights := by
  intro metric member
  simp only [defaultMetrics, List.mem_cons, List.not_mem_nil, or_false] at member
  rcases member with rfl | rfl | rfl | rfl | rfl | rfl
  · refine ⟨percent_nonneg _, ?_⟩
    simp only [Correctness.metric, List.forall_mem_cons]
    exact ⟨percent_nonneg _, percent_nonneg _, percent_nonneg _, percent_nonneg _,
      percent_nonneg _, percent_nonneg _, by simp⟩
  all_goals exact ⟨percent_nonneg _, List.forall_mem_singleton.mpr (percent_nonneg _)⟩

/-- How the default scores of two edits compare, those of groups, those of metrics and the totals,
with averages in exact arithmetic. -/
structure ScoresCompare (compare : Int → Int → Prop) (first second : Context) : Prop where
  groups : ∀ metric ∈ (defaultMetrics : List (Metric ℚ)), ∀ group ∈ metric.groups,
    compare (group.evaluate first).score (group.evaluate second).score
  metrics : ∀ metric ∈ (defaultMetrics : List (Metric ℚ)),
    compare (metric.evaluate first).score (metric.evaluate second).score
  total : compare (scoreWith (defaultMetrics : List (Metric ℚ)) first).total
    (scoreWith (defaultMetrics : List (Metric ℚ)) second).total

theorem ScoresCompare.antisymm {first second : Context} (below : ScoresCompare (· ≤ ·) first second)
    (above : ScoresCompare (· ≤ ·) second first) : ScoresCompare (· = ·) first second where
  groups metric member group inside :=
    le_antisymm (below.groups metric member group inside) (above.groups metric member group inside)
  metrics metric member := le_antisymm (below.metrics metric member) (above.metrics metric member)
  total := le_antisymm below.total above.total

theorem scores_fall {few many : List Diagnostic} (more : few.Subperm many) (context : Context) :
    ScoresCompare (· ≤ ·) (context.withDiagnostics many) (context.withDiagnostics few) := by
  have rules : ∀ metric ∈ (defaultMetrics : List (Metric ℚ)), ∀ group ∈ metric.groups,
      ∀ rule ∈ group.rules, (rule.check (context.withDiagnostics many)).delta ≤
        (rule.check (context.withDiagnostics few)).delta :=
    fun metric member group inside rule listed =>
      (default_rules_fair.of_metrics metric member group inside rule listed).falls more context
  refine ⟨fun metric member group inside => group_mono (rules metric member group inside),
    fun metric member => metric_mono (default_weights_nonneg metric member) (rules metric member),
    total_mono default_weights_nonneg rules⟩

/-- Under diagnostics that include all others, each at least as often, no score is higher. Their
order makes no difference. -/
theorem scores_fall_with_diagnostics (context : Context) (few many : List Diagnostic) :
    ((∀ diagnostic, few.count diagnostic ≤ many.count diagnostic) →
      ScoresCompare (· ≤ ·) (context.withDiagnostics many) (context.withDiagnostics few)) ∧
    (few.Perm many →
      ScoresCompare (· = ·) (context.withDiagnostics many) (context.withDiagnostics few)) := by
  constructor
  · intro counts
    have more : few.Subperm many := List.subperm_ext_iff.mpr fun diagnostic _ => counts diagnostic
    exact scores_fall more context
  · intro perm
    exact (scores_fall perm.subperm context).antisymm (scores_fall perm.symm.subperm context)

/-- A line that does not parse. -/
def brokenLine : Diagnostic := { line := 1, message := "Unexpected token", severity := .error }

/-- Two findings on style, one on a line and one over three lines. -/
def styleHint : Diagnostic := { line := 2, message := "prefer const", severity := .hint }

def styleWarning : Diagnostic := { line := 1, message := "too long", endLine := some 3 }

/-- With a warning more, and with the same diagnostics in another order. -/
theorem warned_edit_scores_no_more :
    let edit : Context :=
      { path := "src/a.ts", current := "let a =\nlet b = 2".toList, delta := { modified := [1, 2] } }
    (∀ diagnostic, [brokenLine, styleHint].count diagnostic ≤
      [styleHint, styleWarning, brokenLine].count diagnostic) ∧
    ScoresCompare (· ≤ ·) (edit.withDiagnostics [styleHint, styleWarning, brokenLine])
      (edit.withDiagnostics [brokenLine, styleHint]) ∧
    [brokenLine, styleHint].Perm [styleHint, brokenLine] ∧
    ScoresCompare (· = ·) (edit.withDiagnostics [styleHint, brokenLine])
      (edit.withDiagnostics [brokenLine, styleHint]) := by
  intro edit
  have more : [brokenLine, styleHint].Subperm [styleHint, styleWarning, brokenLine] := by decide
  have swapped : [brokenLine, styleHint].Perm [styleHint, brokenLine] := .swap _ _ _
  refine ⟨fun diagnostic => more.count_le diagnostic, ?_, swapped, ?_⟩
  · exact (scores_fall_with_diagnostics edit _ _).1 fun diagnostic => more.count_le diagnostic
  · exact (scores_fall_with_diagnostics edit _ _).2 swapped

end EditImpact.Scoring
