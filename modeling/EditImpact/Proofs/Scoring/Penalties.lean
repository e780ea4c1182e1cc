import EditImpact.Scoring.Default
import Mathlib.Algebra.Order.BigOperators.Group.List
import Mathlib.Algebra.Order.Ring.Int
import Mathlib.Data.List.Permutation

/-!
# Scores from penalties alone

A group takes in its deltas one after the other and stays between 0 and 100 meanwhile, so their
order counts where a bonus meets a penalty. All rules of the default metrics but two give no bonus.
One of the two excludes the penalty of its group, the other one comes first, where a bonus is lost
at 100: every default group scores 100 less its penalties, and only one order of one group would
score more (`default_groups_take_penalties`).
-/

namespace EditImpact.Scoring

set_option autoImplicit false

/-- 100 less all penalties, at least 0. Bonuses do not count. -/
def lessPenalties (deltas : List Int) : Int := max 0 (100 + (deltas.map (min 0)).sum)

theorem less_penalties_perm {first second : List Int} (perm : first.Perm second) :
    lessPenalties first = lessPenalties second := by
  rw [lessPenalties, lessPenalties, (perm.map (min 0)).sum_eq]

theorem sum_of_costs_nonpos {Item : Type} {cost : Item → Int} (nonpos : ∀ item, cost item ≤ 0)
    (items : List Item) : (items.map cost).sum ≤ 0 := by
  have costs : ∀ charged ∈ items.map cost, charged ≤ 0 := by
    intro charged member
    obtain ⟨item, -, rfl⟩ := List.mem_map.mp member
    exact nonpos item
  exact (List.sum_le_card_nsmul (items.map cost) 0 costs).trans_eq (nsmul_zero _)

/-! ## Deltas of one sign -/

section OneSign

variable {deltas : List Int}

/-- A score that only falls need not be brought back into range before the end. -/
theorem fold_penalties_from (penalties : ∀ delta ∈ deltas, delta ≤ 0) {score : Int}
    (lower : 0 ≤ score) (upper : score ≤ 100) :
    deltas.foldl (fun score delta => clampScore (score + delta)) score =
      max 0 (score + (deltas.map (min 0)).sum) := by
  induction deltas generalizing score with
  | nil =>
      rw [List.foldl_nil, List.map_nil, List.sum_nil]
      omega
  | cons delta rest induction =>
      obtain ⟨here, later⟩ := List.forall_mem_cons.mp penalties
      have more := sum_of_costs_nonpos (min_le_left 0) rest
      have fallen : clampScore (score + delta) = max 0 (score + delta) := by
        unfold clampScore
        omega
      rw [List.foldl_cons, List.map_cons, List.sum_cons, fallen,
        induction later (by omega) (by omega)]
      omega

theorem fold_of_penalties (penalties : ∀ delta ∈ deltas, delta ≤ 0) :
    foldDeltas deltas = lessPenalties deltas :=
  fold_penalties_from penalties (by decide) le_rfl

/-- All bonuses are lost at 100. -/
theorem fold_of_bonuses (bonuses : ∀ delta ∈ deltas, 0 ≤ delta) :
    foldDeltas deltas = lessPenalties deltas := by
  have none : (deltas.map (min 0)).sum = 0 := by
    apply List.sum_eq_zero
    intro penalty member
    obtain ⟨delta, inside, rfl⟩ := List.mem_map.mp member
    exact min_eq_left (bonuses delta inside)
  have full : foldDeltas deltas = 100 := by
    unfold foldDeltas
    clear none
    induction deltas with
    | nil => rfl
    | cons delta rest induction =>
        obtain ⟨here, later⟩ := List.forall_mem_cons.mp bonuses
        have kept : clampScore (100 + delta) = 100 := by
          unfold clampScore
          omega
        rw [List.foldl_cons, kept, induction later]
  rw [full, lessPenalties, none]
  rfl

end OneSign

/-! ## Rules without a bonus -/

/-- The rule never raises a score. -/
def Rule.NoBonus (rule : Rule) : Prop := ∀ context, (rule.check context).delta ≤ 0

@[simp] theorem Outcome.clean_delta : Outcome.clean.delta = 0 := rfl

namespace Correctness

theorem per_issue_no_bonus {penalty : Int} (negative : penalty ≤ 0) (issues : List Issue) :
    (perIssue penalty issues).delta ≤ 0 :=
  mul_nonpos_of_nonpos_of_nonneg negative (Int.natCast_nonneg issues.length)

theorem syntax_no_bonus : ∀ rule ∈ [brokenDiagnostics, conflictMarkers, bracketBalance],
    rule.NoBonus := by
  simp only [List.forall_mem_cons]
  refine ⟨?_, ?_, ?_, ?_⟩
  · exact fun context => per_issue_no_bonus (by decide) _
  · intro context
    simp only [conflictMarkers]
    split <;> simp
  · intro context
    simp only [bracketBalance]
    split <;> simp
  · simp

theorem types_no_bonus : ∀ rule ∈ [typeDiagnostics, untyped, unguardedAccess],
    rule.NoBonus := by
  simp only [List.forall_mem_cons]
  refine ⟨?_, ?_, ?_, ?_⟩
  · exact fun context => per_issue_no_bonus (by decide) _
  · intro context
    simp only [untyped]
    split
    · simp
    · split
      · simp
      · exact Int.neg_nonpos_of_nonneg (Int.natCast_nonneg _)
  · intro context
    simp only [unguardedAccess]
    split
    · simp
    · split <;> simp
  · simp

theorem bugs_no_bonus : ∀ rule ∈ [errorDiagnostics, unreachableCode, missingReturn, dynamicEval],
    rule.NoBonus := by
  simp only [List.forall_mem_cons]
  refine ⟨?_, ?_, ?_, ?_, ?_⟩
  · exact fun context => per_issue_no_bonus (by decide) _
  · intro context
    simp only [unreachableCode]
    split <;> simp
  · intro context
    simp only [missingReturn]
    split
    · split
      · simp
      · split <;> simp
    · simp
  · intro context
    simp only [dynamicEval]
    split <;> simp
  · simp

theorem complexity_no_bonus : ∀ rule ∈ [controlFlow, nesting, diffSize, repetition],
    rule.NoBonus := by
  simp only [List.forall_mem_cons]
  refine ⟨?_, ?_, ?_, ?_, ?_⟩
  · intro context
    simp only [controlFlow]
    split <;> simp
  · intro context
    simp only [nesting]
    split <;> simp
  · intro context
    simp only [diffSize]
    split <;> simp
  · intro context
    simp only [repetition]
    split <;> simp
  · simp

theorem style_steps_no_bonus (diagnostics : List Diagnostic) {outcome : Outcome}
    (start : outcome.delta ≤ 0) : (diagnostics.foldl styleStep outcome).delta ≤ 0 := by
  induction diagnostics generalizing outcome with
  | nil => exact start
  | cons d rest induction =>
      apply induction
      unfold styleStep
      split
      · exact start
      · exact (Int.sub_le_self _ (by decide)).trans start
      · exact (Int.sub_le_self _ (by decide)).trans start

theorem style_no_bonus : ∀ rule ∈ [styleDiagnostics, mixedNaming, magicNumbers],
    rule.NoBonus := by
  simp only [List.forall_mem_cons]
  refine ⟨?_, ?_, ?_, ?_⟩
  · exact fun context => style_steps_no_bonus _ le_rfl
  · intro context
    simp only [mixedNaming]
    split <;> simp
  · intro context
    simp only [magicNumbers]
    split
    · simp
    · split <;> simp
  · simp

theorem async_no_bonus : unhandledAsync.NoBonus := by
  intro context
  simp only [unhandledAsync]
  split <;> simp

end Correctness

namespace Security

theorem penalty_nonpos (danger : Danger) : danger.penalty ≤ 0 := by cases danger <;> decide

/-- What a dangerous call costs an edit. -/
def callPenalty (context : Context) (call : Pattern × Danger × String) : Int :=
  if (context.linesMatching call.1).isEmpty then 0 else call.2.1.penalty

theorem call_penalty_nonpos (context : Context) (call : Pattern × Danger × String) :
    callPenalty context call ≤ 0 := by
  unfold callPenalty
  split
  · exact le_rfl
  · exact penalty_nonpos call.2.1

theorem dangerous_apis_delta (context : Context) :
    (dangerousApis.check context).delta = (dangerousCalls.map (callPenalty context)).sum := by
  have fold (calls : List (Pattern × Danger × String)) (total : Int) :
      (calls.filterMap fun call =>
          (context.linesMatching call.1).head?.map fun line => (call.2.1, call.2.2, line)).foldl
        (fun total found => total + found.1.penalty) total =
      total + (calls.map (callPenalty context)).sum := by
    induction calls generalizing total with
    | nil => simp
    | cons call calls induction =>
        rw [List.map_cons, List.sum_cons, callPenalty]
        cases lines : context.linesMatching call.1 with
        | nil => simp [lines, induction]
        | cons line more => simp [lines, induction, Int.add_assoc]
  exact (fold dangerousCalls 0).trans (Int.zero_add _)

theorem rules_no_bonus : ∀ rule ∈ [secrets, dangerousApis, inputValidation],
    rule.NoBonus := by
  simp only [List.forall_mem_cons]
  refine ⟨?_, ?_, ?_, ?_⟩
  · intro context
    simp only [secrets]
    split <;> simp [penalty_nonpos]
  · intro context
    rw [dangerous_apis_delta]
    exact sum_of_costs_nonpos (call_penalty_nonpos context) dangerousCalls
  · intro context
    simp only [inputValidation]
    split <;> simp [penalty_nonpos]
  · simp

end Security

theorem Contracts.rules_no_bonus : ∀ rule ∈ [breakingApi, architecture, schemaChange],
    rule.NoBonus := by
  simp only [List.forall_mem_cons]
  refine ⟨?_, ?_, ?_, ?_⟩
  · intro context
    simp only [breakingApi]
    split
    · simp
    · split <;> simp
  · intro context
    exact mul_nonpos_of_nonpos_of_nonneg (by decide) (Int.natCast_nonneg _)
  · intro context
    simp only [schemaChange]
    split <;> simp
  · simp

theorem Risk.rules_no_bonus : ∀ rule ∈ [changeSize, complexityDelta, largeEdit],
    rule.NoBonus := by
  simp only [List.forall_mem_cons]
  refine ⟨?_, ?_, ?_, ?_⟩
  · intro context
    simp only [changeSize]
    split <;> simp
  · intro context
    simp only [complexityDelta]
    split <;> simp
  · intro context
    simp only [largeEdit]
    split <;> simp
  · simp

theorem Hygiene.rules_no_bonus : ∀ rule ∈ [formatting, naming, documentation],
    rule.NoBonus := by
  have found_no_bonus {found : Bool} {penalty : Int} {message : String} {line : Option Int}
      {tag : String} (negative : penalty ≤ 0) :
      (finding found penalty message line tag).delta ≤ 0 := by
    cases found
    · exact le_rfl
    · exact negative
  simp only [List.forall_mem_cons]
  refine ⟨?_, ?_, ?_, ?_⟩
  · intro context
    exact Int.add_nonpos (found_no_bonus (by decide))
      (Int.add_nonpos (found_no_bonus (by decide)) (found_no_bonus (by decide)))
  · intro context
    simp only [naming]
    split <;> simp
  · intro context
    simp only [documentation]
    split
    · simp [undocumented]
    · split
      · split <;> simp [undocumented]
      · simp
  · simp

theorem Coverage.coverage_no_bonus : coverage.NoBonus := by
  intro context
  simp only [coverage]
  split
  · simp
  · split
    · simp
    · split <;> simp

/-! ## Rules with a bonus -/

/-- A test file gets a bonus and nothing is asked of it, another file gets none. -/
theorem Coverage.rules_one_sign (context : Context) :
    (∀ rule ∈ [testFile, coverage], (rule.check context).delta ≤ 0) ∨
      ∀ rule ∈ [testFile, coverage], 0 ≤ (rule.check context).delta := by
  simp only [List.forall_mem_cons, List.not_mem_nil, false_imp_iff, implies_true, and_true]
  cases isTest : context.isTestFile with
  | true => exact .inr ⟨by simp [testFile, isTest], by simp [coverage, isTest]⟩
  | false => exact .inl ⟨by simp [testFile, isTest], coverage_no_bonus context⟩

theorem Correctness.risky_delta (context : Context) :
    (riskyOperations.check context).delta ≤ 0 ∨ (riskyOperations.check context).delta = 5 := by
  simp only [riskyOperations]
  split
  · simp
  · split
    · simp
    · split <;> simp

theorem Correctness.async_delta (context : Context) :
    (unhandledAsync.check context).delta = 0 ∨ (unhandledAsync.check context).delta = -5 := by
  simp only [unhandledAsync]
  split <;> simp

/-! ## Groups -/

/-- There is a bonus for guards and a penalty for asynchronous work without error handling. -/
def GuardedAsync (context : Context) : Prop :=
  0 < (Correctness.riskyOperations.check context).delta ∧
    (Correctness.unhandledAsync.check context).delta < 0

section Groups

variable {Weight : Type} {group : RuleGroup Weight} {metric : Metric Weight} {context : Context}

/-- The rules of the group find only penalties, or only bonuses. -/
def RuleGroup.Unmixed (group : RuleGroup Weight) (context : Context) : Prop :=
  (∀ rule ∈ group.rules, (rule.check context).delta ≤ 0) ∨
    ∀ rule ∈ group.rules, 0 ≤ (rule.check context).delta

theorem group_deltas (group : RuleGroup Weight) (context : Context) :
    (group.outcomes context).map (·.delta) =
      group.rules.map fun rule => (rule.check context).delta := by
  rw [RuleGroup.outcomes, List.map_map]
  rfl

theorem RuleGroup.Unmixed.score_eq (unmixed : group.Unmixed context) {rules : List Rule}
    (perm : rules.Perm group.rules) :
    ({ group with rules := rules }.evaluate context).score =
      lessPenalties ((group.outcomes context).map (·.delta)) := by
  rw [group_deltas, ← less_penalties_perm (perm.map _), RuleGroup.evaluate]
  dsimp only
  rw [group_deltas]
  rcases unmixed with penalties | bonuses
  · apply fold_of_penalties
    intro delta member
    obtain ⟨rule, inside, rfl⟩ := List.mem_map.mp member
    exact penalties rule (perm.subset inside)
  · apply fold_of_bonuses
    intro delta member
    obtain ⟨rule, inside, rfl⟩ := List.mem_map.mp member
    exact bonuses rule (perm.subset inside)

/-- The bonus for guards comes behind the penalty for asynchronous work. -/
def BonusBehind (rules : List Rule) (context : Context) : Prop :=
  rules = [Correctness.unhandledAsync, Correctness.riskyOperations] ∧ GuardedAsync context

theorem guarded_deltas (mixed : GuardedAsync context) :
    (Correctness.riskyOperations.check context).delta = 5 ∧
      (Correctness.unhandledAsync.check context).delta = -5 := by
  obtain ⟨bonus, penalty⟩ := mixed
  constructor
  · exact (Correctness.risky_delta context).resolve_left (by omega)
  · exact (Correctness.async_delta context).resolve_left (by omega)

theorem guarded_scores (group : RuleGroup Weight) (mixed : GuardedAsync context) :
    ({ group with rules := [Correctness.riskyOperations, Correctness.unhandledAsync] }.evaluate
        context).score = 95 ∧
      ({ group with rules := [Correctness.unhandledAsync, Correctness.riskyOperations] }.evaluate
        context).score = 100 := by
  obtain ⟨bonus, penalty⟩ := guarded_deltas mixed
  simp only [RuleGroup.evaluate, group_deltas, List.map_cons, List.map_nil, bonus, penalty]
  decide

theorem RuleGroup.Unmixed.not_behind (unmixed : group.Unmixed context) {rules : List Rule}
    (perm : rules.Perm group.rules) : ¬ BonusBehind rules context := by
  rintro ⟨rfl, bonus, penalty⟩
  rcases unmixed with penalties | bonuses
  · have := penalties Correctness.riskyOperations (perm.subset (by simp))
    omega
  · have := bonuses Correctness.unhandledAsync (perm.subset (by simp))
    omega

theorem not_behind_in_order :
    ¬ BonusBehind [Correctness.riskyOperations, Correctness.unhandledAsync] context := by
  rintro ⟨same, -⟩
  have ids := congrArg (List.map Rule.id) same
  revert ids
  decide

section Defaults

variable [Weighing Weight]

/-- All default groups but two are made of rules without a bonus. -/
theorem default_group_rules (member : metric ∈ defaultMetrics) (inside : group ∈ metric.groups) :
    (∀ rule ∈ group.rules, rule.NoBonus) ∨
      group.rules = [Coverage.testFile, Coverage.coverage] ∨
      group.rules = [Correctness.riskyOperations, Correctness.unhandledAsync] := by
  simp only [defaultMetrics, List.mem_cons, List.not_mem_nil, or_false] at member
  rcases member with rfl | rfl | rfl | rfl | rfl | rfl
  · simp only [Correctness.metric, List.mem_cons, List.not_mem_nil, or_false] at inside
    rcases inside with rfl | rfl | rfl | rfl | rfl | rfl
    · exact .inl Correctness.syntax_no_bonus
    · exact .inl Correctness.types_no_bonus
    · exact .inl Correctness.bugs_no_bonus
    · exact .inl Correctness.complexity_no_bonus
    · exact .inl Correctness.style_no_bonus
    · exact .inr (.inr rfl)
  all_goals obtain rfl := List.mem_singleton.mp inside
  · exact .inl Security.rules_no_bonus
  · exact .inr (.inl rfl)
  · exact .inl Contracts.rules_no_bonus
  · exact .inl Risk.rules_no_bonus
  · exact .inl Hygiene.rules_no_bonus

theorem default_group_unmixed_or (member : metric ∈ defaultMetrics)
    (inside : group ∈ metric.groups) (context : Context) :
    group.Unmixed context ∨
      group.rules = [Correctness.riskyOperations, Correctness.unhandledAsync] ∧
        GuardedAsync context := by
  rcases default_group_rules member inside with none | tests | guards
  · exact .inl (.inl fun rule listed => none rule listed context)
  · rw [RuleGroup.Unmixed, tests]
    exact .inl (Coverage.rules_one_sign context)
  · rw [RuleGroup.Unmixed, guards, GuardedAsync]
    simp only [List.forall_mem_cons, List.not_mem_nil, false_imp_iff, implies_true, and_true,
      true_and]
    have bonus := Correctness.risky_delta context
    have penalty := Correctness.async_delta context
    omega

theorem default_bonus_rules (member : metric ∈ defaultMetrics) (inside : group ∈ metric.groups)
    {rule : Rule} (listed : rule ∈ group.rules) (bonus : 0 < (rule.check context).delta) :
    rule = Coverage.testFile ∨ rule = Correctness.riskyOperations := by
  have bonusRule : ¬ rule.NoBonus := fun none => absurd (none context) (by omega)
  rcases default_group_rules member inside with none | tests | guards
  · exact absurd (none rule listed) bonusRule
  · rw [tests] at listed
    rcases List.mem_pair.mp listed with rfl | rfl
    · exact .inl rfl
    · exact absurd Coverage.coverage_no_bonus bonusRule
  · rw [guards] at listed
    rcases List.mem_pair.mp listed with rfl | rfl
    · exact .inr rfl
    · exact absurd Correctness.async_no_bonus bonusRule

/-- A default group scores 100 less its penalties. Only two rules can give a bonus, which never
raises a score. Every other order of the rules gives the same score, except that a bonus behind the
penalty of its group makes up for it. -/
theorem default_groups_take_penalties (member : metric ∈ defaultMetrics)
    (inside : group ∈ metric.groups) (context : Context) :
    (group.evaluate context).score = lessPenalties ((group.outcomes context).map (·.delta)) ∧
    (∀ rule ∈ group.rules, 0 < (rule.check context).delta →
      rule = Coverage.testFile ∨ rule = Correctness.riskyOperations) ∧
    ∀ rules, rules.Perm group.rules →
      (¬ BonusBehind rules context →
        ({ group with rules := rules }.evaluate context).score = (group.evaluate context).score) ∧
      (BonusBehind rules context →
        ({ group with rules := rules }.evaluate context).score = 100 ∧
          (group.evaluate context).score = 95) := by
  have bonusRules : ∀ rule ∈ group.rules, 0 < (rule.check context).delta →
      rule = Coverage.testFile ∨ rule = Correctness.riskyOperations :=
    fun rule listed => default_bonus_rules member inside listed
  rcases default_group_unmixed_or member inside context with unmixed | ⟨guards, mixed⟩
  · have inOrder := unmixed.score_eq (List.Perm.refl group.rules)
    refine ⟨inOrder, bonusRules, fun rules perm => ⟨fun _ => ?_, fun behind => ?_⟩⟩
    · exact (unmixed.score_eq perm).trans inOrder.symm
    · exact absurd behind (unmixed.not_behind perm)
  · have whole : group =
        { group with rules := [Correctness.riskyOperations, Correctness.unhandledAsync] } := by
      rw [← guards]
    obtain ⟨inOrder, swapped⟩ := guarded_scores group mixed
    rw [← whole] at inOrder
    refine ⟨?_, bonusRules, fun rules perm => ?_⟩
    · obtain ⟨bonus, penalty⟩ := guarded_deltas mixed
      rw [inOrder, group_deltas, guards, List.map_cons, List.map_cons, List.map_nil, bonus, penalty]
      rfl
    · rw [guards] at perm
      rcases List.perm_pair.mp perm with rfl | rfl
      · rw [← whole]
        exact ⟨fun _ => rfl, fun behind => absurd behind not_behind_in_order⟩
      · exact ⟨fun ahead => absurd ⟨rfl, mixed⟩ ahead, fun _ => ⟨swapped, inOrder⟩⟩

end Defaults

end Groups

/-- A new asynchronous function that validates its input. -/
def validatingEdit : Context :=
  { path := "src/a.ts", current := "async validate(x)".toList, delta := { added := [1] } }

/-- The group that looks for guards. -/
def guardGroup : RuleGroup Float :=
  ⟨"safety_guards", Weighing.ofPercent 5, [Correctness.riskyOperations, Correctness.unhandledAsync]⟩

theorem guard_group_of_defaults : Correctness.metric ∈ (defaultMetrics : List (Metric Float)) ∧
    guardGroup ∈ Correctness.metric.groups := by
  simp [defaultMetrics, Correctness.metric, guardGroup]

theorem validating_edit_deltas :
    (guardGroup.outcomes validatingEdit).map (·.delta) = [5, -5] := by
  rw [group_deltas]
  decide +kernel

theorem validating_edit_mixed : GuardedAsync validatingEdit := by
  unfold GuardedAsync
  decide +kernel

/-- The bonus does not make up for the penalty behind it, but would for one before it. -/
theorem validating_edit_takes_penalty :
    (guardGroup.evaluate validatingEdit).score = lessPenalties [5, -5] ∧
      ({ guardGroup with
        rules := [Correctness.unhandledAsync, Correctness.riskyOperations] }.evaluate
          validatingEdit).score = 100 := by
  obtain ⟨member, inside⟩ := guard_group_of_defaults
  obtain ⟨closed, -, orders⟩ := default_groups_take_penalties member inside validatingEdit
  rw [validating_edit_deltas] at closed
  have behind : BonusBehind [Correctness.unhandledAsync, Correctness.riskyOperations]
      validatingEdit := ⟨rfl, validating_edit_mixed⟩
  exact ⟨closed, ((orders _ (.swap _ _ _)).2 behind).1⟩

/-- In the other order the bonus makes up for the penalty. -/
theorem order_of_guards_counts :
    ∃ metric ∈ (defaultMetrics : List (Metric Float)), ∃ group ∈ metric.groups, ∃ rules,
      rules.Perm group.rules ∧ (group.evaluate validatingEdit).score = 95 ∧
        ({ group with rules := rules }.evaluate validatingEdit).score = 100 := by
  refine ⟨Correctness.metric, guard_group_of_defaults.1, guardGroup, guard_group_of_defaults.2,
    [Correctness.unhandledAsync, Correctness.riskyOperations], .swap _ _ _, ?_⟩
  exact guarded_scores guardGroup validating_edit_mixed

end EditImpact.Scoring
