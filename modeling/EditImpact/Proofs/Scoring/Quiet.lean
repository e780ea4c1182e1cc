import EditImpact.Proofs.Scoring.Defaults
import EditImpact.Proofs.Scoring.Exact

/-!
# Edits without a changed line

All rules but those on the size of an edit look at changed lines only. Where there is none, and not
more than a hundred lines are gone, no rule of the default metrics finds anything, so all of them
stay at 100 without an issue (`removals_keep_full_confidence`).
-/

namespace EditImpact.Scoring

set_option autoImplicit false

/-- No line is added or modified, and not many are removed. -/
structure Untouched (context : Context) : Prop where
  unchanged : context.changedLines = []
  small : context.delta.size ≤ 100

namespace Untouched

variable {context : Context} (untouched : Untouched context)

include untouched

theorem changed_pairs : context.changedPairs = [] := by
  simp only [Context.changedPairs, untouched.unchanged, List.filterMap_nil]

theorem changed_code : context.changedCode = [] := by
  rw [Context.changedCode, untouched.changed_pairs]
  rfl

theorem relevant_diagnostics : context.relevantDiagnostics = [] := by
  simp only [Context.relevantDiagnostics, untouched.unchanged, Diagnostic.touches, List.any_nil,
    List.filter_false]

theorem lines_matching (pattern : Pattern) : context.linesMatching pattern = [] := by
  rw [Context.linesMatching, untouched.changed_pairs]
  rfl

end Untouched

/-- Nothing is held against the edit. -/
structure Outcome.Harmless (outcome : Outcome) : Prop where
  kept : 0 ≤ outcome.delta
  silent : outcome.issues = []

@[simp] theorem Outcome.clean_harmless : Outcome.clean.Harmless := ⟨le_rfl, rfl⟩

/-- Without a changed line the rule finds nothing. -/
def Rule.Quiet (rule : Rule) : Prop :=
  ∀ context, Untouched context → (rule.check context).Harmless

def RuleGroup.Quiet {Weight : Type} (group : RuleGroup Weight) : Prop :=
  ∀ rule ∈ group.rules, rule.Quiet

def Metric.Quiet {Weight : Type} (metric : Metric Weight) : Prop :=
  ∀ group ∈ metric.groups, group.Quiet

namespace Correctness

theorem error_issues_of_untouched {context : Context} (untouched : Untouched context)
    (label : String) (wanted : String → Bool) : errorIssues context label wanted = [] := by
  rw [errorIssues, untouched.relevant_diagnostics]
  rfl

/-- The rules on diagnostics. -/
theorem per_issue_harmless {context : Context} (untouched : Untouched context) (penalty : Int)
    (label : String) (wanted : String → Bool) :
    (perIssue penalty (errorIssues context label wanted)).Harmless := by
  rw [error_issues_of_untouched untouched]
  exact ⟨by simp [perIssue], rfl⟩

theorem syntax_quiet : ∀ rule ∈ [brokenDiagnostics, conflictMarkers, bracketBalance],
    rule.Quiet := by
  simp only [List.forall_mem_cons]
  refine ⟨?_, ?_, ?_, ?_⟩
  · intro context untouched
    exact per_issue_harmless untouched _ _ _
  · intro context untouched
    simp [conflictMarkers, untouched.lines_matching]
  · intro context untouched
    simp [bracketBalance, untouched.changed_pairs]
  · simp

theorem types_quiet : ∀ rule ∈ [typeDiagnostics, untyped, unguardedAccess], rule.Quiet := by
  simp only [List.forall_mem_cons]
  refine ⟨?_, ?_, ?_, ?_⟩
  · intro context untouched
    exact per_issue_harmless untouched _ _ _
  · intro context untouched
    simp [untyped, untouched.changed_pairs]
  · intro context untouched
    simp [unguardedAccess, untouched.lines_matching]
  · simp

theorem bugs_quiet :
    ∀ rule ∈ [errorDiagnostics, unreachableCode, missingReturn, dynamicEval], rule.Quiet := by
  have reachable : unreachable.any (·.occurs []) = false := by decide
  have untypedCode : typedFunction.occurs [] = false := by decide
  simp only [List.forall_mem_cons]
  refine ⟨?_, ?_, ?_, ?_, ?_⟩
  · intro context untouched
    exact per_issue_harmless untouched _ _ _
  · intro context untouched
    simp only [unreachableCode, untouched.changed_code, reachable]
    exact Outcome.clean_harmless
  · intro context untouched
    simp [missingReturn, untouched.changed_code, untypedCode]
  · intro context untouched
    simp [dynamicEval, untouched.changed_pairs]
  · simp

theorem complexity_quiet : ∀ rule ∈ [controlFlow, nesting, diffSize, repetition], rule.Quiet := by
  have straight : branch.findAll [] = [] := by decide
  simp only [List.forall_mem_cons]
  refine ⟨?_, ?_, ?_, ?_, ?_⟩
  · intro context untouched
    simp [controlFlow, untouched.changed_code, straight]
  · intro context untouched
    simp [nesting, untouched.changed_pairs, deepest]
  · intro context untouched
    simp [diffSize, untouched.unchanged]
  · intro context untouched
    simp [repetition, untouched.changed_pairs, repeatedLines]
  · simp

theorem style_quiet : ∀ rule ∈ [styleDiagnostics, mixedNaming, magicNumbers], rule.Quiet := by
  have unnamed : camelCase.occurs [] = false := by decide
  simp only [List.forall_mem_cons]
  refine ⟨?_, ?_, ?_, ?_⟩
  · intro context untouched
    simp [styleDiagnostics, untouched.relevant_diagnostics]
  · intro context untouched
    simp [mixedNaming, untouched.changed_code, unnamed]
  · intro context untouched
    simp [magicNumbers, untouched.lines_matching]
  · simp

theorem guards_quiet : ∀ rule ∈ [riskyOperations, unhandledAsync], rule.Quiet := by
  have waiting : asyncWork.occurs [] = false := by decide
  simp only [List.forall_mem_cons]
  refine ⟨?_, ?_, ?_⟩
  · intro context untouched
    simp [riskyOperations, untouched.changed_code]
  · intro context untouched
    simp [unhandledAsync, untouched.changed_code, waiting]
  · simp

end Correctness

theorem Security.rules_quiet : ∀ rule ∈ [secrets, dangerousApis, inputValidation],
    rule.Quiet := by
  have unasked : inputSources.any (·.occurs []) = false := by decide
  simp only [List.forall_mem_cons]
  refine ⟨?_, ?_, ?_, ?_⟩
  · intro context untouched
    have kept : (secretPatterns.findSome? fun pattern =>
        (context.linesMatching pattern).head?) = none := by
      simp [List.findSome?_eq_none_iff, untouched.lines_matching]
    simp only [secrets, kept]
    exact Outcome.clean_harmless
  · intro context untouched
    have found : foundCalls context = [] := by simp [foundCalls, untouched.lines_matching]
    simp only [dangerousApis, found]
    exact ⟨le_rfl, rfl⟩
  · intro context untouched
    simp only [inputValidation, untouched.changed_code, unasked]
    exact Outcome.clean_harmless
  · simp

theorem Coverage.rules_quiet : ∀ rule ∈ [testFile, coverage], rule.Quiet := by
  have nothingNew : newLogic.any (·.occurs []) = false := by decide
  simp only [List.forall_mem_cons]
  refine ⟨?_, ?_, ?_⟩
  · intro context untouched
    simp only [testFile]
    split
    · exact ⟨by decide, rfl⟩
    · exact Outcome.clean_harmless
  · intro context untouched
    simp only [coverage, untouched.changed_code, nothingNew]
    split
    · exact Outcome.clean_harmless
    · exact ⟨le_rfl, rfl⟩
  · simp

theorem Contracts.rules_quiet : ∀ rule ∈ [breakingApi, architecture, schemaChange],
    rule.Quiet := by
  simp only [List.forall_mem_cons]
  refine ⟨?_, ?_, ?_, ?_⟩
  · intro context untouched
    have unexported : exportedNames context = [] := by
      simp [exportedNames, untouched.changed_pairs, firstSightings]
    cases prior : context.prior <;> simp [breakingApi, prior, unexported]
  · intro context untouched
    have layered : (architecture.check context).issues = [] := by
      simp [architecture, untouched.lines_matching]
    have kept : (architecture.check context).delta =
        -20 * (architecture.check context).issues.length := rfl
    refine ⟨?_, layered⟩
    rw [kept, layered]
    decide
  · intro context untouched
    simp [schemaChange, untouched.lines_matching]
  · simp

theorem Risk.rules_quiet : ∀ rule ∈ [changeSize, complexityDelta, largeEdit], rule.Quiet := by
  have straight : controlFlow.findAll [] = [] := by decide
  simp only [List.forall_mem_cons]
  refine ⟨?_, ?_, ?_, ?_⟩
  · intro context untouched
    have small : context.delta.size ≤ 200 := untouched.small.trans (by decide)
    simp only [changeSize, small, if_true]
    exact ⟨le_rfl, rfl⟩
  -- the control flow of the old text only counts in favour of the edit
  · intro context untouched
    simp only [complexityDelta, untouched.changed_code, straight, List.length_nil]
    rw [if_pos (by omega)]
    exact ⟨le_rfl, rfl⟩
  · intro context untouched
    simp [largeEdit, untouched.small]
  · simp

theorem Hygiene.rules_quiet : ∀ rule ∈ [formatting, naming, documentation], rule.Quiet := by
  have documented : undocumentedExport [] = none := by decide
  simp only [List.forall_mem_cons]
  refine ⟨?_, ?_, ?_, ?_⟩
  · intro context untouched
    simp only [formatting, untouched.changed_pairs]
    exact ⟨le_rfl, rfl⟩
  · intro context untouched
    simp [naming, untouched.changed_pairs]
  · intro context untouched
    simp [documentation, undocumentedDef, untouched.changed_code, untouched.changed_pairs,
      documented]
  · simp

/-- No rule of the default metrics finds anything without a changed line. -/
theorem default_rules_quiet : EveryDefaultRule Rule.Quiet where
  syntactic := Correctness.syntax_quiet
  types := Correctness.types_quiet
  bugs := Correctness.bugs_quiet
  complexity := Correctness.complexity_quiet
  style := Correctness.style_quiet
  guards := Correctness.guards_quiet
  security := Security.rules_quiet
  coverage := Coverage.rules_quiet
  contracts := Contracts.rules_quiet
  risk := Risk.rules_quiet
  hygiene := Hygiene.rules_quiet

theorem default_metrics_quiet {Weight : Type} [Weighing Weight] :
    ∀ metric ∈ (defaultMetrics : List (Metric Weight)), metric.Quiet :=
  default_rules_quiet.of_metrics

/-! ## Full scores -/

/-- No metric holds anything against the edit. -/
structure FullConfidence {Weight : Type} (confidence : Confidence Weight) : Prop where
  names : confidence.metrics.map (·.name) = MetricName.all
  metrics : ∀ result ∈ confidence.metrics, result.score = 100 ∧ result.issues = []
  subMetrics : ∀ result ∈ confidence.metrics, ∀ sub ∈ result.subMetrics,
    sub.score = 100 ∧ sub.issues = []
  total : confidence.total = 100
  status : confidence.status = .high

section Scores

theorem fold_deltas_of_nonneg {deltas : List Int} (kept : ∀ delta ∈ deltas, 0 ≤ delta) :
    foldDeltas deltas = 100 := by
  unfold foldDeltas
  induction deltas with
  | nil => rfl
  | cons delta deltas induction =>
      obtain ⟨here, later⟩ := List.forall_mem_cons.mp kept
      have full : clampScore (100 + delta) = 100 := by
        unfold clampScore
        omega
      rw [List.foldl_cons, full]
      exact induction later

variable {context : Context} (untouched : Untouched context)

include untouched

theorem group_of_untouched {group : RuleGroup ℚ} (quiet : group.Quiet) :
    (group.evaluate context).score = 100 ∧ (group.evaluate context).issues = [] := by
  have harmless : ∀ outcome ∈ group.outcomes context, outcome.Harmless := by
    intro outcome member
    obtain ⟨rule, inside, rfl⟩ := List.mem_map.mp member
    exact quiet rule inside context untouched
  constructor
  · apply fold_deltas_of_nonneg
    intro delta member
    obtain ⟨outcome, inside, rfl⟩ := List.mem_map.mp member
    exact (harmless outcome inside).kept
  · apply List.flatMap_eq_nil_iff.mpr
    intro outcome inside
    exact (harmless outcome inside).silent

section Metric

variable {metric : Metric ℚ} (quiet : metric.Quiet)

include quiet

theorem groups_of_untouched :
    ∀ sub ∈ metric.groups.map (·.evaluate context), sub.score = 100 ∧ sub.issues = [] := by
  intro sub member
  obtain ⟨group, inside, rfl⟩ := List.mem_map.mp member
  exact group_of_untouched untouched (quiet group inside)

theorem metric_of_untouched :
    (metric.evaluate context).score = 100 ∧ (metric.evaluate context).issues = [] := by
  have groups := groups_of_untouched untouched quiet
  constructor
  · exact combine_groups_of_all fun sub member => (groups sub member).1
  · exact List.flatMap_eq_nil_iff.mpr fun sub member => (groups sub member).2

theorem sub_metrics_of_untouched :
    ∀ sub ∈ (metric.evaluate context).subMetrics, sub.score = 100 ∧ sub.issues = [] := by
  intro sub member
  simp only [Metric.evaluate] at member
  split at member
  · exact groups_of_untouched untouched quiet sub member
  · cases member

end Metric

/-- An edit without a changed line keeps full confidence. -/
theorem score_of_untouched :
    (scoreWith (defaultMetrics : List (Metric ℚ)) context).total = 100 := by
  apply aggregate_of_all
  intro pair member
  obtain ⟨result, inside, rfl⟩ := List.mem_map.mp member
  obtain ⟨metric, default, rfl⟩ := List.mem_map.mp inside
  exact (metric_of_untouched untouched (default_metrics_quiet metric default)).1

end Scores

theorem untouched_of_removals {context : Context} (nothingAdded : context.delta.added = [])
    (nothingModified : context.delta.modified = [])
    (fewRemoved : context.delta.removed.length ≤ 100) : Untouched context := by
  constructor
  · rw [Context.changedLines, LineDelta.changed, nothingAdded, nothingModified]
    rfl
  · rw [LineDelta.size, nothingAdded, nothingModified]
    simpa using fewRemoved

/-- Taking away up to a hundred lines, exported declarations among them, is never held against an
edit, whatever its texts are and whatever other tools say. -/
theorem removals_keep_full_confidence {context : Context}
    (nothingAdded : context.delta.added = []) (nothingModified : context.delta.modified = [])
    (fewRemoved : context.delta.removed.length ≤ 100) :
    FullConfidence (scoreWith (defaultMetrics : List (Metric ℚ)) context) := by
  have untouched := untouched_of_removals nothingAdded nothingModified fewRemoved
  have total := score_of_untouched untouched
  refine ⟨rfl, ?_, ?_, total, congrArg Status.ofTotal total⟩
  · intro result member
    obtain ⟨metric, default, rfl⟩ := List.mem_map.mp member
    exact metric_of_untouched untouched (default_metrics_quiet metric default)
  · intro result member
    obtain ⟨metric, default, rfl⟩ := List.mem_map.mp member
    exact sub_metrics_of_untouched untouched (default_metrics_quiet metric default)

/-- An exported function is gone, and what is left does not parse. -/
theorem removed_export_keeps_full_confidence :
    let edit : Context :=
      { path := "src/a.ts"
        current := "eval(x".toList
        delta := { removed := [1] }
        prior := some "export function f() \x7b\x7d\neval(x".toList
        diagnostics := [{ line := 1, message := "Unexpected end of input", severity := .error }]
        language := some .typescript }
    edit.delta.removed.length ≤ 100 ∧
      FullConfidence (scoreWith (defaultMetrics : List (Metric ℚ)) edit) := by
  intro edit
  have fewRemoved : edit.delta.removed.length ≤ 100 := by decide
  exact ⟨fewRemoved, removals_keep_full_confidence rfl rfl fewRemoved⟩

end EditImpact.Scoring
