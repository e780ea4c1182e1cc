import EditImpact.Proofs.Scoring.Defaults
import EditImpact.Proofs.Scoring.Locality

/-!
# Issues point at the edit

Rules find the line of an issue in many ways: the first line on which a pattern occurs, the least of
several, the first changed line where none was found, the line of a name or that of a diagnostic.
All of them start from the changed lines, so that no issue points past the edit, unless a diagnostic
that covers a changed line begins above it (`issues_point_at_edit`).
-/

namespace EditImpact.Scoring

set_option autoImplicit false

/-- Where an issue may stand: nowhere, on a changed line, or where a diagnostic begins that covers a
changed line. -/
inductive PointsAtEdit (context : Context) : Option Int → Prop where
  | nowhere : PointsAtEdit context none
  | changed {n : Int} (member : n ∈ context.changedLines) : PointsAtEdit context (some n)
  | diagnosed {d : Diagnostic} {n : Int} (listed : d ∈ context.diagnostics)
      (member : n ∈ context.changedLines) (first : d.line ≤ n)
      (last : n ≤ d.endLine.getD d.line) : PointsAtEdit context (some d.line)

/-- All issues point at the edit. -/
def Placed (context : Context) (issues : List Issue) : Prop :=
  ∀ issue ∈ issues, PointsAtEdit context issue.line

def Rule.Placed (rule : Rule) : Prop :=
  ∀ context, Scoring.Placed context (rule.check context).issues

/-! ## Lines of issues -/

section Lines

variable {context : Context} {lines : List Int} {issues others : List Issue}

@[simp] theorem placed_nil : Placed context [] := by simp [Placed]

@[simp] theorem placed_clean : Placed context Outcome.clean.issues := placed_nil

theorem placed_one {message : String} {line : Option Int} (points : PointsAtEdit context line) :
    Placed context [⟨message, line⟩] := List.forall_mem_singleton.mpr points

theorem Placed.append (placed : Placed context issues) (placedToo : Placed context others) :
    Placed context (issues ++ others) :=
  List.forall_mem_append.mpr ⟨placed, placedToo⟩

theorem Placed.take (placed : Placed context issues) (count : Nat) :
    Placed context (issues.take count) :=
  fun issue member => placed issue (List.mem_of_mem_take member)

theorem pairs_changed {pair : Int × List Char} (member : pair ∈ context.changedPairs) :
    pair.1 ∈ context.changedLines := (changed_of_pair member).1

theorem filtered_lines_changed (keep : Int × List Char → Bool) :
    (context.changedPairs.filter keep).map (·.1) ⊆ context.changedLines := by
  intro n member
  obtain ⟨pair, kept, rfl⟩ := List.mem_map.mp member
  exact pairs_changed (List.mem_filter.mp kept).1

theorem lines_matching_changed (pattern : Pattern) :
    context.linesMatching pattern ⊆ context.changedLines := filtered_lines_changed _

theorem points_at_first (changed : lines ⊆ context.changedLines) :
    PointsAtEdit context lines.head? := by
  cases lines with
  | nil => exact .nowhere
  | cons n rest => exact .changed (changed List.mem_cons_self)

theorem points_at_first_changed : PointsAtEdit context context.firstChangedLine :=
  points_at_first (List.Subset.refl _)

theorem points_at_first_matching (pattern : Pattern) :
    PointsAtEdit context (context.linesMatching pattern).head? :=
  points_at_first (lines_matching_changed pattern)

theorem points_at_first_filtered (keep : Int × List Char → Bool) :
    PointsAtEdit context ((context.changedPairs.filter keep).head?.map (·.1)) := by
  rw [← List.head?_map]
  exact points_at_first (filtered_lines_changed keep)

end Lines

namespace Correctness

variable {context : Context} {lines : List Int}

theorem placed_at (message : String) (changed : lines ⊆ context.changedLines) :
    Placed context (issuesAt message lines) := by
  intro issue member
  obtain ⟨n, listed, rfl⟩ := List.mem_map.mp member
  exact .changed (changed listed)

theorem placed_at_matching (message : String) (pattern : Pattern) :
    Placed context (issuesAt message (context.linesMatching pattern)) :=
  placed_at message (lines_matching_changed pattern)

theorem placed_at_few (message : String) (pattern : Pattern) (count : Nat) :
    Placed context (issuesAt message ((context.linesMatching pattern).take count)) :=
  placed_at message (List.Subset.trans (List.take_subset count _) (lines_matching_changed pattern))

theorem points_at_first_or (changed : lines ⊆ context.changedLines) :
    PointsAtEdit context (firstOr context lines) := by
  cases lines with
  | nil => exact points_at_first_changed
  | cons n rest => exact .changed (changed List.mem_cons_self)

theorem points_at_relevant {d : Diagnostic} (relevant : d ∈ context.relevantDiagnostics) :
    PointsAtEdit context (some d.line) := by
  obtain ⟨listed, touches⟩ := List.mem_filter.mp relevant
  obtain ⟨n, changed, covered⟩ := List.any_eq_true.mp touches
  rw [Bool.and_eq_true, decide_eq_true_iff, decide_eq_true_iff] at covered
  obtain ⟨first, last⟩ := covered
  exact .diagnosed listed changed first last

theorem error_issues_placed (label : String) (wanted : String → Bool) :
    Placed context (errorIssues context label wanted) := by
  intro issue member
  obtain ⟨d, chosen, rfl⟩ := List.mem_map.mp member
  exact points_at_relevant (List.mem_filter.mp chosen).1

theorem syntax_placed : ∀ rule ∈ [brokenDiagnostics, conflictMarkers, bracketBalance],
    rule.Placed := by
  simp only [List.forall_mem_cons]
  refine ⟨?_, ?_, ?_, ?_⟩
  · exact fun context => error_issues_placed _ _
  · intro context
    simp only [conflictMarkers]
    split
    · exact placed_clean
    · exact placed_at_matching _ _
  · intro context
    simp only [bracketBalance]
    split
    · exact placed_clean
    · dsimp only
      split
      · exact placed_one points_at_first_changed
      · exact placed_at _ (filtered_lines_changed _)
  · simp

/-- A loose type is reported where it stands. -/
theorem untyped_issue_line {pair : Int × List Char} {issue : Issue}
    (found : untypedIssue pair = some issue) : issue.line = some pair.1 := by
  unfold untypedIssue at found
  split at found
  · cases found
    rfl
  · split at found
    · split at found <;> cases found
      rfl
    · split at found
      · split at found <;> cases found
        rfl
      · cases found

theorem types_placed : ∀ rule ∈ [typeDiagnostics, untyped, unguardedAccess], rule.Placed := by
  simp only [List.forall_mem_cons]
  refine ⟨?_, ?_, ?_, ?_⟩
  · exact fun context => error_issues_placed _ _
  · intro context
    have found : Placed context (context.changedPairs.filterMap untypedIssue) := by
      intro issue member
      obtain ⟨pair, changed, loose⟩ := List.mem_filterMap.mp member
      rw [untyped_issue_line loose]
      exact .changed (pairs_changed changed)
    simp only [untyped]
    split
    · exact placed_clean
    · split
      · exact placed_clean
      · exact found.take 10
  · intro context
    simp only [unguardedAccess]
    split
    · exact placed_clean
    · split
      · exact placed_clean
      · exact placed_at_few _ _ 3
  · simp

theorem bugs_placed : ∀ rule ∈ [errorDiagnostics, unreachableCode, missingReturn, dynamicEval],
    rule.Placed := by
  simp only [List.forall_mem_cons]
  refine ⟨?_, ?_, ?_, ?_, ?_⟩
  · exact fun context => error_issues_placed _ fun _ => true
  · intro context
    simp only [unreachableCode]
    split
    · exact placed_one (points_at_first_or (lines_matching_changed _))
    · exact placed_clean
  · intro context
    simp only [missingReturn]
    split
    · split
      · exact placed_clean
      · split
        · exact placed_clean
        · exact placed_one (points_at_first_or (lines_matching_changed _))
    · exact placed_clean
  · intro context
    simp only [dynamicEval]
    split
    · exact placed_clean
    · intro issue member
      obtain ⟨pair, changed, found⟩ := List.mem_filterMap.mp member
      obtain ⟨call, -, rfl⟩ := Option.map_eq_some_iff.mp found
      exact .changed (pairs_changed changed)
  · simp

/-- The deepest line is one of those that were looked at. -/
theorem deepest_points {pairs : List (Int × List Char)} (changed : pairs ⊆ context.changedPairs) :
    PointsAtEdit context (deepest pairs).2 := by
  have from_best : ∀ best : Nat × Option Int, PointsAtEdit context best.2 →
      PointsAtEdit context (pairs.foldl (fun best pair =>
        let depth := leadingBlanks pair.2
        if best.1 < depth then (depth, some pair.1) else best) best).2 := by
    induction pairs with
    | nil => exact fun best points => points
    | cons pair rest induction =>
        obtain ⟨here, later⟩ := List.cons_subset.mp changed
        intro best points
        apply induction later
        dsimp only
        split
        · exact .changed (pairs_changed here)
        · exact points
  exact from_best (0, none) .nowhere

/-- Lines that begin alike are among those that were compared. -/
theorem repeated_lines_subset {keyed : List (Int × List Char)} {lines : List Int}
    (found : repeatedLines keyed = some lines) : lines ⊆ keyed.map (·.1) := by
  obtain ⟨pair, -, same⟩ := List.exists_of_findSome?_eq_some found
  dsimp only at same
  split at same <;> cases same
  exact List.map_subset _ List.filter_sublist.subset

theorem complexity_placed : ∀ rule ∈ [controlFlow, nesting, diffSize, repetition],
    rule.Placed := by
  simp only [List.forall_mem_cons]
  refine ⟨?_, ?_, ?_, ?_, ?_⟩
  · intro context
    simp only [controlFlow]
    split
    · exact placed_clean
    · exact placed_one (points_at_first_or (lines_matching_changed _))
  · intro context
    simp only [nesting]
    split
    · exact placed_clean
    · exact placed_one (deepest_points (List.Subset.refl _))
  · intro context
    simp only [diffSize]
    split
    · exact placed_clean
    · exact placed_one points_at_first_changed
  · intro context
    simp only [repetition]
    split
    · exact placed_clean
    · next lines found =>
        apply placed_one
        apply points_at_first
        apply List.Subset.trans (repeated_lines_subset found)
        intro n member
        obtain ⟨keyed, listed, rfl⟩ := List.mem_map.mp member
        obtain ⟨pair, changed, key⟩ := List.mem_filterMap.mp listed
        obtain ⟨start, -, rfl⟩ := Option.map_eq_some_iff.mp key
        have here := pairs_changed changed
        exact here
  · simp

/-- Each issue of the rule on style comes from a diagnostic that it took in. -/
theorem style_steps_placed {diagnostics : List Diagnostic}
    (relevant : diagnostics ⊆ context.relevantDiagnostics) {outcome : Outcome}
    (placed : Placed context outcome.issues) :
    Placed context (diagnostics.foldl styleStep outcome).issues := by
  induction diagnostics generalizing outcome with
  | nil => exact placed
  | cons d rest induction =>
      obtain ⟨here, later⟩ := List.cons_subset.mp relevant
      have listed (message : String) : Placed context (outcome.issues ++ [⟨message, some d.line⟩]) :=
        placed.append (placed_one (points_at_relevant here))
      apply induction later
      unfold styleStep
      split
      · exact placed
      · exact listed _
      · dsimp only
        split
        · exact placed
        · exact listed _

theorem style_placed : ∀ rule ∈ [styleDiagnostics, mixedNaming, magicNumbers], rule.Placed := by
  simp only [List.forall_mem_cons]
  refine ⟨?_, ?_, ?_, ?_⟩
  · exact fun context => style_steps_placed (List.Subset.refl _) placed_clean
  · intro context
    simp only [mixedNaming]
    split
    · apply placed_one
      apply points_at_first_or
      split <;> exact lines_matching_changed _
    · exact placed_clean
  · intro context
    simp only [magicNumbers]
    split
    · exact placed_clean
    · split
      · exact placed_clean
      · exact placed_at_few _ _ 3
  · simp

theorem unguarded_calls_placed : Placed context (unguardedCalls context) := by
  intro issue member
  obtain ⟨call, -, found⟩ := List.mem_flatMap.mp member
  exact placed_at _ (List.Subset.trans List.filter_sublist.subset (lines_matching_changed _))
    issue found

theorem guards_placed : ∀ rule ∈ [riskyOperations, unhandledAsync], rule.Placed := by
  simp only [List.forall_mem_cons]
  refine ⟨?_, ?_, ?_⟩
  · intro context
    simp only [riskyOperations]
    split
    · exact placed_clean
    · split
      · exact unguarded_calls_placed.take 5
      · split
        · exact placed_nil
        · exact placed_clean
  · intro context
    simp only [unhandledAsync]
    split
    · exact placed_clean
    · exact placed_at_few _ _ 3
  · simp

end Correctness

theorem Security.rules_placed : ∀ rule ∈ [secrets, dangerousApis, inputValidation],
    rule.Placed := by
  simp only [List.forall_mem_cons]
  refine ⟨?_, ?_, ?_, ?_⟩
  · intro context
    simp only [secrets]
    split
    · exact placed_clean
    · next line found =>
        obtain ⟨pattern, -, first⟩ := List.exists_of_findSome?_eq_some found
        apply placed_one
        rw [← first]
        exact points_at_first_matching pattern
  · intro context issue member
    obtain ⟨found, listed, rfl⟩ := List.mem_map.mp member
    obtain ⟨call, -, first⟩ := List.mem_filterMap.mp listed
    obtain ⟨line, here, rfl⟩ := Option.map_eq_some_iff.mp first
    dsimp only
    rw [← here]
    exact points_at_first_matching call.1
  · intro context
    have least : PointsAtEdit context (inputSources.flatMap context.linesMatching).min? := by
      cases found : (inputSources.flatMap context.linesMatching).min? with
      | none => exact .nowhere
      | some n =>
          obtain ⟨pattern, -, matching⟩ := List.mem_flatMap.mp (List.min?_mem found)
          exact .changed (lines_matching_changed pattern matching)
    simp only [inputValidation]
    split
    · exact placed_clean
    · exact placed_one least
  · simp

theorem Coverage.rules_placed : ∀ rule ∈ [testFile, coverage], rule.Placed := by
  simp only [List.forall_mem_cons]
  refine ⟨?_, ?_, ?_⟩
  · intro context
    simp only [testFile]
    split
    · exact placed_nil
    · exact placed_clean
  · intro context
    simp only [coverage]
    split
    · exact placed_clean
    · split
      · exact placed_nil
      · split
        · exact placed_one points_at_first_changed
        · exact placed_one points_at_first_changed
        · exact placed_nil
  · simp

namespace Contracts

theorem first_sightings_subset (found : List (List Char × Int)) :
    firstSightings found ⊆ found := by
  induction found with
  | nil => exact List.Subset.refl _
  | cons pair rest induction =>
      exact List.cons_subset_cons pair (List.Subset.trans List.filter_sublist.subset induction)

theorem exported_line_changed {context : Context} {name : List Char} {line : Int}
    (exported : (name, line) ∈ exportedNames context) : line ∈ context.changedLines := by
  obtain ⟨pair, changed, found⟩ := List.mem_flatMap.mp (first_sightings_subset _ exported)
  obtain ⟨pattern, -, sighting⟩ := List.mem_flatMap.mp found
  obtain ⟨sighted, -, same⟩ := List.mem_map.mp sighting
  cases same
  exact pairs_changed changed

theorem rules_placed : ∀ rule ∈ [breakingApi, architecture, schemaChange], rule.Placed := by
  simp only [List.forall_mem_cons]
  refine ⟨?_, ?_, ?_, ?_⟩
  · intro context
    simp only [breakingApi]
    split
    · exact placed_clean
    · split
      · exact placed_clean
      · next name line found =>
          exact placed_one (.changed (exported_line_changed (List.mem_of_find?_eq_some found)))
  · intro context issue member
    obtain ⟨violation, -, first⟩ := List.mem_filterMap.mp member
    obtain ⟨line, here, rfl⟩ := Option.map_eq_some_iff.mp first
    dsimp only
    rw [← here]
    exact points_at_first_matching violation.1
  · intro context
    simp only [schemaChange]
    split
    · exact placed_clean
    · next line rest found =>
        have first : PointsAtEdit context (context.linesMatching schemaEdit).head? :=
          points_at_first_matching schemaEdit
        rw [found] at first
        exact placed_one first
  · simp

end Contracts

theorem Risk.rules_placed : ∀ rule ∈ [changeSize, complexityDelta, largeEdit], rule.Placed := by
  simp only [List.forall_mem_cons]
  refine ⟨?_, ?_, ?_, ?_⟩
  · intro context
    simp only [changeSize]
    split
    · exact placed_nil
    · exact placed_one points_at_first_changed
  · intro context
    simp only [complexityDelta]
    split
    · exact placed_nil
    · exact placed_one points_at_first_changed
  · intro context
    simp only [largeEdit]
    split
    · exact placed_clean
    · exact placed_one points_at_first_changed
  · simp

namespace Hygiene

variable {context : Context}

theorem finding_placed {line : Option Int} (points : PointsAtEdit context line) (found : Bool)
    (penalty : Int) (message tag : String) :
    Placed context (finding found penalty message line tag).issues := by
  unfold finding
  split
  · exact placed_one points
  · exact placed_clean

theorem undocumented_placed (name : List Char) :
    Placed context (undocumented context name).issues :=
  placed_one (points_at_first_matching _)

theorem rules_placed : ∀ rule ∈ [formatting, naming, documentation], rule.Placed := by
  simp only [List.forall_mem_cons]
  refine ⟨?_, ?_, ?_, ?_⟩
  · intro context
    apply Placed.append (finding_placed (points_at_first_filtered _) _ _ _ _)
    apply Placed.append (finding_placed (points_at_first_filtered _) _ _ _ _)
    exact finding_placed points_at_first_changed _ _ _ _
  · intro context
    simp only [naming]
    split
    · exact placed_clean
    · next n kind name found =>
        obtain ⟨pair, changed, odd⟩ := List.exists_of_findSome?_eq_some found
        obtain ⟨what, -, same⟩ := Option.map_eq_some_iff.mp odd
        cases same
        exact placed_one (.changed (pairs_changed changed))
  · intro context
    simp only [documentation]
    split
    · exact undocumented_placed _
    · split
      · split
        · exact undocumented_placed _
        · exact placed_clean
      · exact placed_clean
  · simp

end Hygiene

theorem default_rules_placed : EveryDefaultRule Rule.Placed where
  syntactic := Correctness.syntax_placed
  types := Correctness.types_placed
  bugs := Correctness.bugs_placed
  complexity := Correctness.complexity_placed
  style := Correctness.style_placed
  guards := Correctness.guards_placed
  security := Security.rules_placed
  coverage := Coverage.rules_placed
  contracts := Contracts.rules_placed
  risk := Risk.rules_placed
  hygiene := Hygiene.rules_placed

/-! ## What a metric reports -/

section Reports

variable {Weight : Type}

theorem group_placed {group : RuleGroup Weight} (placed : ∀ rule ∈ group.rules, rule.Placed)
    (context : Context) : Placed context (group.evaluate context).issues := by
  intro issue member
  obtain ⟨outcome, found, listed⟩ := List.mem_flatMap.mp member
  obtain ⟨rule, inside, rfl⟩ := List.mem_map.mp found
  exact placed rule inside context issue listed

variable [Weighing Weight]

/-- The issues of a metric are those of its rules, group by group and rule by rule. -/
theorem metric_issues (metric : Metric Weight) (context : Context) :
    (metric.evaluate context).issues = metric.groups.flatMap fun group =>
      group.rules.flatMap fun rule => (rule.check context).issues := by
  simp only [Metric.evaluate, RuleGroup.evaluate, RuleGroup.outcomes, List.flatMap_map]

theorem sub_metric_of_group {metric : Metric Weight} {context : Context} {sub : SubMetric Weight}
    (member : sub ∈ (metric.evaluate context).subMetrics) :
    ∃ group ∈ metric.groups, group.evaluate context = sub := by
  simp only [Metric.evaluate] at member
  split at member
  · exact List.mem_map.mp member
  · cases member

theorem metric_placed {metric : Metric Weight}
    (placed : ∀ group ∈ metric.groups, ∀ rule ∈ group.rules, rule.Placed) (context : Context) :
    Placed context (metric.evaluate context).issues := by
  intro issue member
  obtain ⟨sub, found, listed⟩ := List.mem_flatMap.mp member
  obtain ⟨group, inside, rfl⟩ := List.mem_map.mp found
  exact group_placed (placed group inside) context issue listed

/-- No issue of the default metrics points away from the edit, and each metric lists all issues of
its rules in order. -/
theorem issues_point_at_edit (context : Context) :
    (∀ result ∈ (scoreWith (defaultMetrics : List (Metric Weight)) context).metrics,
      (∀ issue ∈ result.issues, PointsAtEdit context issue.line) ∧
      ∀ sub ∈ result.subMetrics, ∀ issue ∈ sub.issues, PointsAtEdit context issue.line) ∧
    (scoreWith (defaultMetrics : List (Metric Weight)) context).metrics.map (·.issues) =
      (defaultMetrics : List (Metric Weight)).map fun metric => metric.groups.flatMap fun group =>
        group.rules.flatMap fun rule => (rule.check context).issues := by
  constructor
  · intro result member
    obtain ⟨metric, default, rfl⟩ := List.mem_map.mp member
    have placed := default_rules_placed.of_metrics metric default
    refine ⟨metric_placed placed context, ?_⟩
    intro sub reported
    obtain ⟨group, inside, rfl⟩ := sub_metric_of_group reported
    exact group_placed (placed group inside) context
  · rw [scoreWith, List.map_map]
    apply List.map_congr_left
    intro metric _
    exact metric_issues metric context

end Reports

/-- A diagnostic of two lines, of which the second one changed. -/
theorem diagnosed_issue_above_change :
    let edit : Context :=
      { path := "src/a.ts"
        current := "let a =\nlet b = 2".toList
        delta := { modified := [2] }
        diagnostics :=
          [{ line := 1, message := "Unexpected token", severity := .error, endLine := some 2 }] }
    1 ∉ edit.changedLines ∧
      ∃ result ∈ (scoreWith (defaultMetrics : List (Metric Float)) edit).metrics,
        ∃ issue ∈ result.issues, issue.line = some 1 ∧ PointsAtEdit edit issue.line := by
  intro edit
  have reported : ⟨"Syntax error: Unexpected token", some 1⟩ ∈
      ((Correctness.metric : Metric Float).evaluate edit).issues := by decide +kernel
  obtain ⟨places, -⟩ := @issues_point_at_edit Float _ edit
  exact ⟨by decide, _, List.mem_cons_self, _, reported, rfl,
    (places _ List.mem_cons_self).1 _ reported⟩

end EditImpact.Scoring
