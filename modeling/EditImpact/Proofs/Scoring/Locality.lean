import EditImpact.Proofs.Scoring.Mean
import EditImpact.Scoring.Default

/-!
# Rules look near the changed lines

Two texts that agree on every changed line, on the five lines before it and on the nine lines after
it look the same to the rules. `SameEdit` says this of two contexts; a rule is local if it cannot
tell such contexts apart. All rules are local but two: the signatures of the old and the new text
are compared as a whole, so contracts are local only without an old text, and documentation is
looked for in the whole body of a function. That rule carries no weight, so the total is local too
(`far_lines_do_not_matter`).
-/

namespace EditImpact.Scoring

set_option autoImplicit false

/-- The same edit of two texts that agree near its lines. -/
structure SameEdit (first second : Context) : Prop where
  path : first.path = second.path
  delta : first.delta = second.delta
  prior : first.prior = second.prior
  diagnostics : first.diagnostics = second.diagnostics
  language : first.language = second.language
  nearbyTests : first.nearbyTests = second.nearbyTests
  isTestFile : first.isTestFile = second.isTestFile
  lineCount : first.lines.length = second.lines.length
  near : ∀ n ∈ first.changedLines, 0 < n → n ≤ first.lines.length →
    ∀ line, n - 5 ≤ line → line ≤ n + 9 → lineAt? first.lines line = lineAt? second.lines line

theorem line_at_of_pos {lines : List (List Char)} {line : Int} (positive : 0 < line) :
    lineAt? lines line = lines[(line - 1).toNat]? := if_pos positive

/-- The lines between two numbers are the same if they are the same one by one. -/
theorem stretch_eq {first second : List (List Char)} {start stop : Nat}
    (agree : ∀ line : Int, start < line → line ≤ stop →
      lineAt? first line = lineAt? second line) :
    (first.take stop).drop start = (second.take stop).drop start := by
  apply List.ext_getElem?
  intro index
  rw [List.getElem?_drop, List.getElem?_drop, List.getElem?_take, List.getElem?_take]
  split
  · next inside =>
      have here := agree ((start + index : Nat) + 1) (by omega) (by omega)
      have place : (((start + index : Nat) : Int) + 1 - 1).toNat = start + index := by omega
      rwa [line_at_of_pos (by omega), line_at_of_pos (by omega), place] at here
  · rfl

theorem changed_of_pair {context : Context} {pair : Int × List Char}
    (member : pair ∈ context.changedPairs) :
    pair.1 ∈ context.changedLines ∧ 0 < pair.1 ∧ pair.1 ≤ context.lines.length := by
  obtain ⟨n, changed, found⟩ := List.mem_filterMap.mp member
  split at found
  · next positive =>
      obtain ⟨text, here, rfl⟩ := Option.map_eq_some_iff.mp found
      rw [List.getElem?_toArray] at here
      have := (List.getElem?_eq_some_iff.mp here).1
      exact ⟨changed, positive, by dsimp only; omega⟩
  · nomatch found

namespace SameEdit

variable {first second : Context} (same : SameEdit first second)

include same

theorem changed_lines : first.changedLines = second.changedLines := by
  rw [Context.changedLines, same.delta]
  rfl

theorem changed_pairs : first.changedPairs = second.changedPairs := by
  unfold Context.changedPairs
  rw [← same.changed_lines]
  apply List.filterMap_congr
  intro n changed
  split
  · next positive =>
      rw [List.getElem?_toArray, List.getElem?_toArray]
      by_cases inside : n ≤ first.lines.length
      · have here := same.near n changed positive inside n (by omega) (by omega)
        rw [line_at_of_pos positive, line_at_of_pos positive] at here
        rw [here]
      · have count := same.lineCount
        rw [List.getElem?_eq_none (by omega), List.getElem?_eq_none (by omega)]
  · rfl

theorem changed_code : first.changedCode = second.changedCode := by
  rw [Context.changedCode, same.changed_pairs]
  rfl

theorem relevant_diagnostics : first.relevantDiagnostics = second.relevantDiagnostics := by
  rw [Context.relevantDiagnostics, same.diagnostics, same.changed_lines]
  rfl

theorem first_changed_line : first.firstChangedLine = second.firstChangedLine := by
  rw [Context.firstChangedLine, same.changed_lines]
  rfl

theorem lines_matching (pattern : Pattern) :
    first.linesMatching pattern = second.linesMatching pattern := by
  rw [Context.linesMatching, same.changed_pairs]
  rfl

theorem near_pair {pair : Int × List Char} (member : pair ∈ second.changedPairs) {line : Int}
    (after : pair.1 - 5 ≤ line) (before : line ≤ pair.1 + 9) :
    lineAt? first.lines line = lineAt? second.lines line := by
  rw [← same.changed_pairs] at member
  obtain ⟨changed, positive, inside⟩ := changed_of_pair member
  exact same.near pair.1 changed positive inside line after before

/-- The five lines before a changed line. -/
theorem window_before {n : Int} {pattern : Pattern} (member : n ∈ second.linesMatching pattern) :
    first.windowBefore n 5 = second.windowBefore n 5 := by
  obtain ⟨pair, matching, rfl⟩ := List.mem_map.mp member
  have changed := (List.mem_filter.mp matching).1
  have positive := (changed_of_pair changed).2.1
  have window : Context.slice (pair.1 - 1 - 5).toNat (pair.1 - 1) first.lines =
      Context.slice (pair.1 - 1 - 5).toNat (pair.1 - 1) second.lines := by
    have forward : ¬ pair.1 - 1 < 0 := by omega
    unfold Context.slice
    simp only [forward, if_false]
    apply stretch_eq
    intro line after before
    exact same.near_pair changed (by omega) (by omega)
  rw [Context.windowBefore, window]
  rfl

/-- The nine lines after a changed line. -/
theorem following {pair : Int × List Char} (changed : pair ∈ second.changedPairs) :
    (first.lines.drop pair.1.toNat).take 9 = (second.lines.drop pair.1.toNat).take 9 := by
  have positive := (changed_of_pair changed).2.1
  rw [List.take_drop, List.take_drop]
  apply stretch_eq
  intro line after before
  exact same.near_pair changed (by omega) (by omega)

end SameEdit

/-- The rule finds the same in the same edit of texts that agree near it. -/
def Rule.Local (rule : Rule) : Prop :=
  ∀ first second, SameEdit first second → rule.check first = rule.check second

def RuleGroup.Local {Weight : Type} (group : RuleGroup Weight) : Prop :=
  ∀ rule ∈ group.rules, rule.Local

def Metric.Local {Weight : Type} (metric : Metric Weight) : Prop :=
  ∀ group ∈ metric.groups, group.Local

namespace Correctness

section Reads

variable {first second : Context} (same : SameEdit first second)

include same

theorem error_issues_local : errorIssues first = errorIssues second := by
  funext label wanted
  rw [errorIssues, same.relevant_diagnostics]
  rfl

theorem first_or_local : firstOr first = firstOr second := by
  funext lines
  rw [firstOr, same.first_changed_line]
  rfl

theorem suspect_heads_local :
    second.changedPairs.filter (isSuspectHead first.lines) =
      second.changedPairs.filter (isSuspectHead second.lines) := by
  apply List.filter_congr
  intro pair changed
  rw [isSuspectHead, isSuspectHead, same.following changed, same.lineCount]

theorem unguarded_calls_local : unguardedCalls first = unguardedCalls second := by
  have unguarded : ∀ pattern, ((first.linesMatching pattern).filter fun n =>
        !guardNearby.occurs (first.windowBefore n 5)) =
      (second.linesMatching pattern).filter fun n =>
        !guardNearby.occurs (second.windowBefore n 5) := by
    intro pattern
    rw [same.lines_matching]
    apply List.filter_congr
    intro n matching
    rw [same.window_before matching]
  unfold unguardedCalls
  simp only [unguarded]

end Reads

theorem syntax_local : ∀ rule ∈ [brokenDiagnostics, conflictMarkers, bracketBalance],
    rule.Local := by
  simp only [List.forall_mem_cons]
  refine ⟨?_, ?_, ?_, ?_⟩
  · intro first second same
    simp only [brokenDiagnostics, error_issues_local same]
  · intro first second same
    simp only [conflictMarkers, same.lines_matching]
  · intro first second same
    simp only [bracketBalance, same.changed_pairs, suspect_heads_local same,
      same.first_changed_line]
  · simp

theorem types_local : ∀ rule ∈ [typeDiagnostics, untyped, unguardedAccess], rule.Local := by
  simp only [List.forall_mem_cons]
  refine ⟨?_, ?_, ?_, ?_⟩
  · intro first second same
    simp only [typeDiagnostics, error_issues_local same]
  · intro first second same
    simp only [untyped, same.language, same.changed_pairs]
  · intro first second same
    simp only [unguardedAccess, same.changed_code, same.lines_matching]
  · simp

theorem bugs_local :
    ∀ rule ∈ [errorDiagnostics, unreachableCode, missingReturn, dynamicEval], rule.Local := by
  simp only [List.forall_mem_cons]
  refine ⟨?_, ?_, ?_, ?_, ?_⟩
  · intro first second same
    simp only [errorDiagnostics, error_issues_local same]
  · intro first second same
    simp only [unreachableCode, same.changed_code, same.lines_matching, first_or_local same]
  · intro first second same
    simp only [missingReturn, same.changed_code, same.lines_matching, first_or_local same]
  · intro first second same
    simp only [dynamicEval, same.changed_pairs]
  · simp

theorem complexity_local : ∀ rule ∈ [controlFlow, nesting, diffSize, repetition], rule.Local := by
  simp only [List.forall_mem_cons]
  refine ⟨?_, ?_, ?_, ?_, ?_⟩
  · intro first second same
    simp only [controlFlow, same.changed_code, same.lines_matching, first_or_local same]
  · intro first second same
    simp only [nesting, same.changed_pairs]
  · intro first second same
    simp only [diffSize, same.changed_lines, same.first_changed_line]
  · intro first second same
    simp only [repetition, same.changed_pairs]
  · simp

theorem style_local : ∀ rule ∈ [styleDiagnostics, mixedNaming, magicNumbers], rule.Local := by
  simp only [List.forall_mem_cons]
  refine ⟨?_, ?_, ?_, ?_⟩
  · intro first second same
    simp only [styleDiagnostics, same.relevant_diagnostics]
  · intro first second same
    simp only [mixedNaming, same.changed_code, same.lines_matching, first_or_local same]
  · intro first second same
    simp only [magicNumbers, same.changed_code, same.lines_matching]
  · simp

theorem guards_local : ∀ rule ∈ [riskyOperations, unhandledAsync], rule.Local := by
  simp only [List.forall_mem_cons]
  refine ⟨?_, ?_, ?_⟩
  · intro first second same
    simp only [riskyOperations, same.changed_code, unguarded_calls_local same]
  · intro first second same
    simp only [unhandledAsync, same.changed_code, same.lines_matching]
  · simp

theorem metric_local {Weight : Type} [Weighing Weight] : (metric : Metric Weight).Local := by
  unfold Metric.Local metric
  simp only [List.forall_mem_cons]
  exact ⟨syntax_local, types_local, bugs_local, complexity_local, style_local, guards_local,
    by simp⟩

end Correctness

theorem Security.rules_local : ∀ rule ∈ [secrets, dangerousApis, inputValidation],
    rule.Local := by
  simp only [List.forall_mem_cons]
  refine ⟨?_, ?_, ?_, ?_⟩
  · intro first second same
    simp only [secrets, same.lines_matching]
  · intro first second same
    simp only [dangerousApis, foundCalls, same.lines_matching]
  · intro first second same
    have asked : first.linesMatching = second.linesMatching := funext same.lines_matching
    simp only [inputValidation, same.changed_code, asked]
  · simp

theorem Coverage.rules_local : ∀ rule ∈ [testFile, coverage], rule.Local := by
  simp only [List.forall_mem_cons]
  refine ⟨?_, ?_, ?_⟩
  · intro first second same
    simp only [testFile, same.isTestFile]
  · intro first second same
    simp only [coverage, same.isTestFile, same.changed_code, same.nearbyTests,
      same.first_changed_line]
  · simp

theorem Risk.rules_local : ∀ rule ∈ [changeSize, complexityDelta, largeEdit], rule.Local := by
  simp only [List.forall_mem_cons]
  refine ⟨?_, ?_, ?_, ?_⟩
  · intro first second same
    simp only [changeSize, same.delta, same.first_changed_line]
  · intro first second same
    simp only [complexityDelta, same.prior, same.changed_code, same.first_changed_line]
  · intro first second same
    simp only [largeEdit, same.delta, same.first_changed_line]
  · simp

/-- Without an old text there are no signatures to compare, so that the new text counts only on
changed lines. -/
theorem Contracts.rules_local {first second : Context} (same : SameEdit first second)
    (fresh : first.prior = none) :
    ∀ rule ∈ [breakingApi, architecture, schemaChange], rule.check first = rule.check second := by
  simp only [List.forall_mem_cons]
  refine ⟨?_, ?_, ?_, ?_⟩
  · have fresh' : second.prior = none := same.prior ▸ fresh
    simp only [breakingApi, fresh, fresh']
  · simp only [architecture, same.lines_matching]
  · simp only [schemaChange, same.lines_matching]
  · simp

section Groups

variable {Weight : Type} {first second : Context} {group : RuleGroup Weight}

theorem outcomes_of_rules (rules : ∀ rule ∈ group.rules, rule.check first = rule.check second) :
    group.outcomes first = group.outcomes second := List.map_congr_left rules

theorem evaluate_group_of_rules
    (rules : ∀ rule ∈ group.rules, rule.check first = rule.check second) :
    group.evaluate first = group.evaluate second := by
  simp only [RuleGroup.evaluate, outcomes_of_rules rules]

theorem tags_of_rules (rules : ∀ rule ∈ group.rules, rule.check first = rule.check second) :
    group.tags first = group.tags second := by
  simp only [RuleGroup.tags, outcomes_of_rules rules]

end Groups

section Metrics

variable {Weight : Type} [Weighing Weight] {first second : Context} {metric : Metric Weight}

/-- What a metric makes of an edit depends on what its rules find. -/
theorem evaluate_metric_of_rules
    (rules : ∀ group ∈ metric.groups, ∀ rule ∈ group.rules,
      rule.check first = rule.check second) :
    metric.evaluate first = metric.evaluate second := by
  have subs : metric.groups.map (·.evaluate first) = metric.groups.map (·.evaluate second) :=
    List.map_congr_left fun group member => evaluate_group_of_rules (rules group member)
  have tags : metric.groups.flatMap (·.tags first) = metric.groups.flatMap (·.tags second) :=
    List.flatMap_congr fun group member => tags_of_rules (rules group member)
  simp only [Metric.evaluate, subs, tags]

theorem Metric.Local.evaluate_eq (isLocal : metric.Local) (same : SameEdit first second) :
    metric.evaluate first = metric.evaluate second :=
  evaluate_metric_of_rules fun group inside rule member =>
    isLocal group inside rule member first second same

theorem Contracts.evaluate_eq (same : SameEdit first second) (fresh : first.prior = none) :
    (Contracts.metric : Metric Weight).evaluate first = Contracts.metric.evaluate second :=
  evaluate_metric_of_rules (List.forall_mem_singleton.mpr (Contracts.rules_local same fresh))

end Metrics

/-- The total depends on the weights and on the weighted scores. -/
theorem aggregate_eq_of_scaled {Weight : Type} [Weighing Weight]
    {first second : List (Int × Weight)} (weights : first.map (·.2) = second.map (·.2))
    (scaled : (first.map fun pair => Weighing.scale pair.1 pair.2) =
      second.map fun pair => Weighing.scale pair.1 pair.2) :
    aggregate first = aggregate second := by
  have mean : weightedMean first = weightedMean second := by
    change Weighing.nearestScore (Weighing.divide
        (sumWeights (first.map fun pair => Weighing.scale pair.1 pair.2)) _) = _
    rw [scaled, weights]
    rfl
  rw [aggregate, aggregate, weights, mean]

theorem total_eq_of_scaled {Weight : Type} [Weighing Weight] {metrics : List (Metric Weight)}
    {first second : Context}
    (scaled : ∀ metric ∈ metrics, Weighing.scale (metric.evaluate first).score metric.weight =
      Weighing.scale (metric.evaluate second).score metric.weight) :
    (scoreWith metrics first).total = (scoreWith metrics second).total := by
  apply aggregate_eq_of_scaled
  · rw [List.map_map, List.map_map, List.map_map, List.map_map]
    rfl
  · rw [List.map_map, List.map_map, List.map_map, List.map_map]
    exact List.map_congr_left scaled

/-- A score taken no times is nothing, also for doubles, where zero times infinity is not. -/
theorem scale_weightless {score : Int} (inRange : InRange score) :
    Weighing.scale score (Weighing.ofPercent 0 : Float) = 0 := by
  obtain ⟨lower, upper⟩ := inRange
  have each : ∀ n : Fin 101, Weighing.scale (n : Int) (Weighing.ofPercent 0 : Float) = 0 := by
    decide +kernel
  have here := each ⟨score.toNat, by omega⟩
  rwa [Int.toNat_of_nonneg lower] at here

theorem hygiene_weightless (context : Context) :
    Weighing.scale ((Hygiene.metric : Metric Float).evaluate context).score
      (Weighing.ofPercent 0 : Float) = 0 := scale_weightless (fold_deltas_in_range _)

section Total

variable {first second : Context} (same : SameEdit first second)

include same

theorem correctness_eq : (Correctness.metric : Metric Float).evaluate first =
    Correctness.metric.evaluate second := Correctness.metric_local.evaluate_eq same

theorem security_eq : (Security.metric : Metric Float).evaluate first =
    Security.metric.evaluate second :=
  Metric.Local.evaluate_eq (List.forall_mem_singleton.mpr Security.rules_local) same

theorem coverage_eq : (Coverage.metric : Metric Float).evaluate first =
    Coverage.metric.evaluate second :=
  Metric.Local.evaluate_eq (List.forall_mem_singleton.mpr Coverage.rules_local) same

theorem risk_eq : (Risk.metric : Metric Float).evaluate first =
    Risk.metric.evaluate second :=
  Metric.Local.evaluate_eq (List.forall_mem_singleton.mpr Risk.rules_local) same

theorem total_eq_of_same_edit (fresh : first.prior = none) :
    (score first).total = (score second).total := by
  apply total_eq_of_scaled
  simp only [defaultMetrics, List.forall_mem_cons]
  refine ⟨?_, ?_, ?_, ?_, ?_, ?_, by simp⟩
  · rw [correctness_eq same]
  · rw [security_eq same]
  · rw [coverage_eq same]
  · rw [Contracts.evaluate_eq same fresh]
  · rw [risk_eq same]
  · exact (hygiene_weightless first).trans (hygiene_weightless second).symm

end Total

/-- Text away from the edit changes no result but that of the hygiene metric, which has no weight.
The contracts of a file with an old text are the other exception. -/
theorem far_lines_do_not_matter {first second : Context} (same : SameEdit first second) :
    (∀ name ∈ [.codeCorrectness, .security, .testValidation, .changeRisk],
      ∃ result, (score first).metric? name = some result ∧
        (score second).metric? name = some result) ∧
    (first.prior = none →
      (∃ result, (score first).metric? .contracts = some result ∧
        (score second).metric? .contracts = some result) ∧
      (score first).total = (score second).total ∧
      (score first).status = (score second).status) := by
  constructor
  · simp only [List.forall_mem_cons]
    refine ⟨⟨_, rfl, ?_⟩, ⟨_, rfl, ?_⟩, ⟨_, rfl, ?_⟩, ⟨_, rfl, ?_⟩, by simp⟩
    · exact congrArg some (correctness_eq same).symm
    · exact congrArg some (security_eq same).symm
    · exact congrArg some (coverage_eq same).symm
    · exact congrArg some (risk_eq same).symm
  · intro fresh
    have total := total_eq_of_same_edit same fresh
    refine ⟨⟨_, rfl, ?_⟩, total, ?_⟩
    · exact congrArg some (Contracts.evaluate_eq same fresh).symm
    · exact congrArg Status.ofTotal total

/-- A call on the first line and, eleven lines below it, a line that did not change. -/
def callAbove (last : String) : Context where
  path := "a.ts"
  current := ("eval(x)\n\n\n\n\n\n\n\n\n\n\n\n" ++ last).toList
  delta := { modified := [1] }

theorem last_line_does_not_matter :
    (callAbove "let a = 1").current ≠ (callAbove "eval(y)").current ∧
    (∃ result, (score (callAbove "let a = 1")).metric? .security = some result ∧
      (score (callAbove "eval(y)")).metric? .security = some result) ∧
    (score (callAbove "let a = 1")).total = (score (callAbove "eval(y)")).total := by
  have same : SameEdit (callAbove "let a = 1") (callAbove "eval(y)") := by
    refine ⟨rfl, rfl, rfl, rfl, rfl, rfl, rfl, by decide, ?_⟩
    intro n changed _ _ line _ before
    rw [show (callAbove "let a = 1").changedLines = [1] from rfl, List.mem_singleton] at changed
    have agree : ∀ number : Fin 10, (callAbove "let a = 1").lines[number]? =
        (callAbove "eval(y)").lines[number]? := by decide
    unfold lineAt?
    split
    · exact agree ⟨(line - 1).toNat, by omega⟩
    · rfl
  obtain ⟨results, fresh⟩ := far_lines_do_not_matter same
  exact ⟨by decide, results .security (by decide), (fresh rfl).2.1⟩

end EditImpact.Scoring
