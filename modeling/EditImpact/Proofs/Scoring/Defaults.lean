import EditImpact.Scoring.Default

/-!
# The rules of the default metrics

What is to hold of every default rule is shown group by group and then read off for the metrics, in
whatever numbers they are weighted.
-/

namespace EditImpact.Scoring

set_option autoImplicit false

/-- The property holds of all rules of each default group. -/
structure EveryDefaultRule (P : Rule → Prop) : Prop where
  syntactic : ∀ rule ∈ [Correctness.brokenDiagnostics, Correctness.conflictMarkers,
    Correctness.bracketBalance], P rule
  types : ∀ rule ∈ [Correctness.typeDiagnostics, Correctness.untyped,
    Correctness.unguardedAccess], P rule
  bugs : ∀ rule ∈ [Correctness.errorDiagnostics, Correctness.unreachableCode,
    Correctness.missingReturn, Correctness.dynamicEval], P rule
  complexity : ∀ rule ∈ [Correctness.controlFlow, Correctness.nesting, Correctness.diffSize,
    Correctness.repetition], P rule
  style : ∀ rule ∈ [Correctness.styleDiagnostics, Correctness.mixedNaming,
    Correctness.magicNumbers], P rule
  guards : ∀ rule ∈ [Correctness.riskyOperations, Correctness.unhandledAsync], P rule
  security : ∀ rule ∈ [Security.secrets, Security.dangerousApis, Security.inputValidation],
    P rule
  coverage : ∀ rule ∈ [Coverage.testFile, Coverage.coverage], P rule
  contracts : ∀ rule ∈ [Contracts.breakingApi, Contracts.architecture, Contracts.schemaChange],
    P rule
  risk : ∀ rule ∈ [Risk.changeSize, Risk.complexityDelta, Risk.largeEdit], P rule
  hygiene : ∀ rule ∈ [Hygiene.formatting, Hygiene.naming, Hygiene.documentation], P rule

theorem EveryDefaultRule.of_metrics {P : Rule → Prop} (every : EveryDefaultRule P)
    {Weight : Type} [Weighing Weight] :
    ∀ metric ∈ (defaultMetrics : List (Metric Weight)), ∀ group ∈ metric.groups,
      ∀ rule ∈ group.rules, P rule := by
  intro metric member group inside
  simp only [defaultMetrics, List.mem_cons, List.not_mem_nil, or_false] at member
  rcases member with rfl | rfl | rfl | rfl | rfl | rfl
  · simp only [Correctness.metric, List.mem_cons, List.not_mem_nil, or_false] at inside
    rcases inside with rfl | rfl | rfl | rfl | rfl | rfl
    · exact every.syntactic
    · exact every.types
    · exact every.bugs
    · exact every.complexity
    · exact every.style
    · exact every.guards
  all_goals obtain rfl := List.mem_singleton.mp inside
  · exact every.security
  · exact every.coverage
  · exact every.contracts
  · exact every.risk
  · exact every.hygiene

end EditImpact.Scoring
