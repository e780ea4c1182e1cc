import EditImpact.Proofs.Scoring.Exact
import Mathlib.Algebra.Order.BigOperators.Group.List

/-!
# The scorer is a bounded monotone mean

A group adds up its rules and stays between 0 and 100 after each; metrics and totals are weighted
means of such scores, rounded. Weights that are not negative make all of it monotone in what the
rules find, and keep a total between the scores it is made from
(`scores_are_bounded_monotone_means`).
-/

namespace EditImpact.Scoring

set_option autoImplicit false

/-- A score is from 0 to 100. -/
def InRange (score : Int) : Prop := 0 ≤ score ∧ score ≤ 100

theorem clamp_score_in_range (score : Int) : InRange (clampScore score) := by
  unfold InRange clampScore
  omega

theorem clamp_score_mono {first second : Int} (below : first ≤ second) :
    clampScore first ≤ clampScore second := by
  unfold clampScore
  omega

/-! ## Groups -/

theorem fold_deltas_in_range (deltas : List Int) : InRange (foldDeltas deltas) := by
  have from_score : ∀ score, InRange score →
      InRange (deltas.foldl (fun score delta => clampScore (score + delta)) score) := by
    induction deltas with
    | nil => exact fun score inRange => inRange
    | cons delta rest induction =>
        exact fun score _ => induction _ (clamp_score_in_range (score + delta))
  exact from_score 100 (by unfold InRange; omega)

theorem fold_deltas_mono {Item : Type} {first second : Item → Int} {items : List Item}
    (below : ∀ item ∈ items, first item ≤ second item) :
    foldDeltas (items.map first) ≤ foldDeltas (items.map second) := by
  have from_scores : ∀ lower upper, lower ≤ upper →
      (items.map first).foldl (fun score delta => clampScore (score + delta)) lower ≤
        (items.map second).foldl (fun score delta => clampScore (score + delta)) upper := by
    induction items with
    | nil => exact fun lower upper start => start
    | cons item rest induction =>
        obtain ⟨here, later⟩ := List.forall_mem_cons.mp below
        intro lower upper start
        exact induction later _ _ (clamp_score_mono (by omega))
  exact from_scores 100 100 le_rfl

/-! ## Means -/

section Means

variable {Item : Type} {items : List Item} {score other : Item → Int} {weight : Item → ℚ}

/-- Items with their scores and weights. -/
def weighed (score : Item → Int) (weight : Item → ℚ) (items : List Item) : List (Int × ℚ) :=
  items.map fun item => (score item, weight item)

theorem weights_of_weighed : (weighed score weight items).map (·.2) = items.map weight := by
  rw [weighed, List.map_map]
  rfl

theorem mean_of_weighed :
    weightedMean (weighed score weight items) =
      clampScore ⌊(items.map fun item => (score item : ℚ) * weight item).sum /
        (items.map weight).sum + 1 / 2⌋ := by
  rw [weighted_mean_eq, weights_of_weighed, weighed, List.map_map]
  rfl

theorem mean_in_range (scored : List (Int × ℚ)) : InRange (weightedMean scored) := by
  rw [weighted_mean_eq]
  exact clamp_score_in_range _

theorem aggregate_in_range (scored : List (Int × ℚ)) : InRange (aggregate scored) := by
  unfold aggregate
  split
  · exact mean_in_range scored
  · unfold InRange
    omega

variable (nonneg : ∀ item ∈ items, 0 ≤ weight item)

include nonneg

theorem total_weight_nonneg : 0 ≤ (items.map weight).sum := by
  apply List.sum_nonneg
  intro w member
  obtain ⟨item, inside, rfl⟩ := List.mem_map.mp member
  exact nonneg item inside

theorem total_weight_pos (somePositive : ∃ item ∈ items, 0 < weight item) :
    0 < (items.map weight).sum := by
  obtain ⟨item, member, positive⟩ := somePositive
  apply positive.trans_le
  apply List.single_le_sum _ _ (List.mem_map_of_mem member)
  intro w inside
  obtain ⟨other, listed, rfl⟩ := List.mem_map.mp inside
  exact nonneg other listed

/-- Items without weight do not count. -/
theorem scaled_sum_mono (below : ∀ item ∈ items, 0 < weight item → score item ≤ other item) :
    (items.map fun item => (score item : ℚ) * weight item).sum ≤
      (items.map fun item => (other item : ℚ) * weight item).sum := by
  apply List.sum_le_sum
  intro item member
  rcases (nonneg item member).eq_or_lt with weightless | positive
  · rw [← weightless, mul_zero, mul_zero]
  · exact mul_le_mul_of_nonneg_right (by exact_mod_cast below item member positive) positive.le

theorem mean_mono (below : ∀ item ∈ items, 0 < weight item → score item ≤ other item) :
    weightedMean (weighed score weight items) ≤ weightedMean (weighed other weight items) := by
  have sums := scaled_sum_mono nonneg below
  have total := total_weight_nonneg nonneg
  rw [mean_of_weighed, mean_of_weighed]
  apply clamp_score_mono
  gcongr

theorem aggregate_mono (below : ∀ item ∈ items, 0 < weight item → score item ≤ other item) :
    aggregate (weighed score weight items) ≤ aggregate (weighed other weight items) := by
  simp only [aggregate, weights_of_weighed]
  split
  · exact mean_mono nonneg below
  · exact le_rfl

theorem aggregate_eq_of_weighty
    (same : ∀ item ∈ items, 0 < weight item → score item = other item) :
    aggregate (weighed score weight items) = aggregate (weighed other weight items) := by
  apply le_antisymm
  · exact aggregate_mono nonneg fun item member positive => (same item member positive).le
  · exact aggregate_mono nonneg fun item member positive => (same item member positive).ge

theorem aggregate_constant (somePositive : ∃ item ∈ items, 0 < weight item) (constant : Int)
    (lower : 0 ≤ constant) (upper : constant ≤ 100) :
    aggregate (weighed (fun _ => constant) weight items) = constant := by
  have positive := total_weight_pos nonneg somePositive
  rw [← weights_of_weighed] at positive
  have weighs : Weighing.isPositive
      (sumWeights ((weighed (fun _ => constant) weight items).map (·.2))) = true := by
    rw [is_positive_iff, sum_weights_eq]
    exact positive
  rw [aggregate, if_pos weighs]
  apply weighted_mean_of_all lower upper positive
  intro pair member
  obtain ⟨item, inside, rfl⟩ := List.mem_map.mp member
  rfl

section Between

variable (somePositive : ∃ item ∈ items, 0 < weight item)
  (inRange : ∀ item ∈ items, InRange (score item))

include somePositive inRange

/-- If all scores that count were greater than their mean, so would be the mean of the next greater
score, which is that score. -/
theorem exists_score_le_aggregate :
    ∃ item ∈ items, 0 < weight item ∧ score item ≤ aggregate (weighed score weight items) := by
  by_contra none
  push Not at none
  have lower := (aggregate_in_range (weighed score weight items)).1
  have upper : aggregate (weighed score weight items) + 1 ≤ 100 := by
    obtain ⟨item, member, positive⟩ := somePositive
    exact (Int.add_one_le_of_lt (none item member positive)).trans (inRange item member).2
  have next := aggregate_constant nonneg somePositive _ (by omega) upper
  have mono := aggregate_mono nonneg fun item member positive =>
    Int.add_one_le_of_lt (none item member positive)
  omega

theorem exists_aggregate_le_score :
    ∃ item ∈ items, 0 < weight item ∧ aggregate (weighed score weight items) ≤ score item := by
  by_contra none
  push Not at none
  have upper := (aggregate_in_range (weighed score weight items)).2
  have lower : 0 ≤ aggregate (weighed score weight items) - 1 := by
    obtain ⟨item, member, positive⟩ := somePositive
    have below := none item member positive
    have positive := (inRange item member).1
    omega
  have previous := aggregate_constant nonneg somePositive _ lower (by omega)
  have mono := aggregate_mono nonneg fun item member positive =>
    Int.le_sub_one_of_lt (none item member positive)
  omega

end Between

end Means

theorem aggregate_of_weightless {scored : List (Int × ℚ)}
    (weightless : ∀ pair ∈ scored, pair.2 = 0) : aggregate scored = 100 := by
  have total : (scored.map (·.2)).sum = 0 := by
    apply List.sum_eq_zero
    intro weight member
    obtain ⟨pair, inside, rfl⟩ := List.mem_map.mp member
    exact weightless pair inside
  have light : ¬ Weighing.isPositive (sumWeights (scored.map (·.2))) = true := by
    rw [is_positive_iff, sum_weights_eq, total]
    exact lt_irrefl 0
  rw [aggregate, if_neg light]

/-! ## Metrics -/

/-- No weight in a metric is negative. -/
structure Metric.NonnegWeights (metric : Metric ℚ) : Prop where
  own : 0 ≤ metric.weight
  groups : ∀ group ∈ metric.groups, 0 ≤ group.weight

theorem combine_groups_in_range {subs : List (SubMetric ℚ)}
    (inRange : ∀ sub ∈ subs, InRange sub.score) : InRange (combineGroups subs) := by
  unfold combineGroups
  split
  · exact ⟨by decide, le_rfl⟩
  · next sub => exact inRange sub List.mem_cons_self
  · next sub rest alone =>
      dsimp only
      split
      · exact mean_in_range _
      · exact inRange sub List.mem_cons_self

theorem combine_several (group next : RuleGroup ℚ) (rest : List (RuleGroup ℚ))
    (context : Context) :
    combineGroups ((group :: next :: rest).map (·.evaluate context)) =
      if Weighing.isPositive (sumWeights ((group :: next :: rest).map (·.weight))) then
        weightedMean (weighed (fun group => (group.evaluate context).score) (·.weight)
          (group :: next :: rest))
      else (group.evaluate context).score := by
  have scored : ((group :: next :: rest).map (·.evaluate context)).map
        (fun sub => (sub.score, sub.weight)) =
      weighed (fun group => (group.evaluate context).score) (·.weight)
        (group :: next :: rest) := by
    rw [weighed, List.map_map]
    rfl
  rw [← weights_of_weighed, ← scored]
  rfl

/-- Which way the scores of groups are combined is up to their number and their weights. -/
theorem combine_groups_mono {groups : List (RuleGroup ℚ)} {first second : Context}
    (nonneg : ∀ group ∈ groups, 0 ≤ group.weight)
    (below : ∀ group ∈ groups, (group.evaluate first).score ≤ (group.evaluate second).score) :
    combineGroups (groups.map (·.evaluate first)) ≤
      combineGroups (groups.map (·.evaluate second)) := by
  match groups with
  | [] => exact le_rfl
  | [group] => exact below group List.mem_cons_self
  | group :: next :: rest =>
      rw [combine_several, combine_several]
      split
      · exact mean_mono nonneg fun group member _ => below group member
      · exact below group List.mem_cons_self

section Scorer

variable {metrics : List (Metric ℚ)}

theorem total_eq (context : Context) :
    (scoreWith metrics context).total =
      aggregate (weighed (fun metric => (metric.evaluate context).score) (·.weight) metrics) := by
  rw [scoreWith, weighed, List.map_map]
  rfl

theorem group_in_range (group : RuleGroup ℚ) (context : Context) :
    InRange (group.evaluate context).score := fold_deltas_in_range _

theorem metric_in_range (metric : Metric ℚ) (context : Context) :
    InRange (metric.evaluate context).score := by
  apply combine_groups_in_range
  intro sub member
  obtain ⟨group, inside, rfl⟩ := List.mem_map.mp member
  exact group_in_range group context

theorem group_mono {group : RuleGroup ℚ} {first second : Context}
    (below : ∀ rule ∈ group.rules, (rule.check first).delta ≤ (rule.check second).delta) :
    (group.evaluate first).score ≤ (group.evaluate second).score := by
  simp only [RuleGroup.evaluate, RuleGroup.outcomes, List.map_map]
  exact fold_deltas_mono below

theorem metric_mono {metric : Metric ℚ} (weights : metric.NonnegWeights) {first second : Context}
    (below : ∀ group ∈ metric.groups, ∀ rule ∈ group.rules,
      (rule.check first).delta ≤ (rule.check second).delta) :
    (metric.evaluate first).score ≤ (metric.evaluate second).score :=
  combine_groups_mono weights.groups fun group member => group_mono (below group member)

theorem total_mono (weights : ∀ metric ∈ metrics, metric.NonnegWeights) {first second : Context}
    (below : ∀ metric ∈ metrics, ∀ group ∈ metric.groups, ∀ rule ∈ group.rules,
      (rule.check first).delta ≤ (rule.check second).delta) :
    (scoreWith metrics first).total ≤ (scoreWith metrics second).total := by
  rw [total_eq, total_eq]
  exact aggregate_mono (fun metric member => (weights metric member).own)
    fun metric member _ => metric_mono (weights metric member) (below metric member)

/-- Scores from 0 to 100 that grow with what the rules find. The total is between scores of metrics
with weight, and metrics without weight do not move it. -/
theorem scores_are_bounded_monotone_means
    (weights : ∀ metric ∈ metrics, metric.NonnegWeights) :
    (∀ context,
      (∀ metric ∈ metrics, (∀ group ∈ metric.groups, InRange (group.evaluate context).score) ∧
        InRange (metric.evaluate context).score) ∧
      InRange (scoreWith metrics context).total) ∧
    (∀ first second,
      (∀ metric ∈ metrics, ∀ group ∈ metric.groups, ∀ rule ∈ group.rules,
        (rule.check first).delta ≤ (rule.check second).delta) →
      (∀ metric ∈ metrics,
        (∀ group ∈ metric.groups, (group.evaluate first).score ≤ (group.evaluate second).score) ∧
        (metric.evaluate first).score ≤ (metric.evaluate second).score) ∧
      (scoreWith metrics first).total ≤ (scoreWith metrics second).total) ∧
    (∀ context, (∃ metric ∈ metrics, 0 < metric.weight) →
      (∃ metric ∈ metrics, 0 < metric.weight ∧
        (metric.evaluate context).score ≤ (scoreWith metrics context).total) ∧
      (∃ metric ∈ metrics, 0 < metric.weight ∧
        (scoreWith metrics context).total ≤ (metric.evaluate context).score)) ∧
    (∀ first second,
      (∀ metric ∈ metrics, 0 < metric.weight →
        (metric.evaluate first).score = (metric.evaluate second).score) →
      (scoreWith metrics first).total = (scoreWith metrics second).total) ∧
    ((∀ metric ∈ metrics, metric.weight = 0) →
      ∀ context, (scoreWith metrics context).total = 100) := by
  have nonneg : ∀ metric ∈ metrics, 0 ≤ metric.weight := fun metric member =>
    (weights metric member).own
  refine ⟨?range, ?mono, ?between, ?weighty, ?weightless⟩
  case range =>
    intro context
    refine ⟨fun metric _ => ⟨fun group _ => group_in_range group context,
      metric_in_range metric context⟩, ?_⟩
    rw [total_eq]
    exact aggregate_in_range _
  case mono =>
    intro first second below
    have metricBelow : ∀ metric ∈ metrics,
        (metric.evaluate first).score ≤ (metric.evaluate second).score := fun metric member =>
      metric_mono (weights metric member) (below metric member)
    refine ⟨fun metric member => ⟨fun group inside => group_mono (below metric member group inside),
      metricBelow metric member⟩, ?_⟩
    rw [total_eq, total_eq]
    exact aggregate_mono nonneg fun metric member _ => metricBelow metric member
  case between =>
    intro context somePositive
    have inRange : ∀ metric ∈ metrics, InRange (metric.evaluate context).score :=
      fun metric _ => metric_in_range metric context
    rw [total_eq]
    exact ⟨exists_score_le_aggregate nonneg somePositive inRange,
      exists_aggregate_le_score nonneg somePositive inRange⟩
  case weighty =>
    intro first second same
    rw [total_eq, total_eq]
    exact aggregate_eq_of_weighty nonneg same
  case weightless =>
    intro weightless context
    rw [total_eq]
    apply aggregate_of_weightless
    intro pair member
    obtain ⟨metric, inside, rfl⟩ := List.mem_map.mp member
    exact weightless metric inside

end Scorer

/-- Ten points for each changed line. -/
def lineCost : Rule where
  id := "lines"
  check context := { delta := -10 * context.changedLines.length }

/-- One metric that counts, with two groups, and one that does not. -/
def lineMetrics : List (Metric ℚ) :=
  [{ name := .changeRisk
     weight := 3 / 4
     groups := [⟨"lines", 1 / 2, [lineCost]⟩, ⟨"nothing", 1 / 4, []⟩] },
    { name := .codeHygiene, weight := 0, groups := [⟨"lines", 1, [lineCost]⟩] }]

def editOf (changed : List Int) : Context where
  path := "a.ts"
  current := "a\nb\nc".toList
  delta := { modified := changed }

/-- An edit of three lines has a lower total than one of a single line. -/
theorem longer_edit_scores_less :
    (∀ metric ∈ lineMetrics, metric.NonnegWeights) ∧
    InRange (scoreWith lineMetrics (editOf [1, 2, 3])).total ∧
    (scoreWith lineMetrics (editOf [1, 2, 3])).total < (scoreWith lineMetrics (editOf [1])).total ∧
    (scoreWith lineMetrics (editOf [1, 2, 3])).total = 80 ∧
    (scoreWith lineMetrics (editOf [1])).total = 93 ∧
    ∃ metric ∈ lineMetrics, 0 < metric.weight ∧
      (scoreWith lineMetrics (editOf [1])).total ≤ (metric.evaluate (editOf [1])).score := by
  have weights : ∀ metric ∈ lineMetrics, metric.NonnegWeights := by
    simp only [lineMetrics, List.forall_mem_cons]
    refine ⟨⟨by norm_num, ?_⟩, ⟨by norm_num, ?_⟩, by simp⟩
    · simp only [List.forall_mem_cons]
      exact ⟨by norm_num, by norm_num, by simp⟩
    · simp only [List.forall_mem_cons]
      exact ⟨by norm_num, by simp⟩
  have below : ∀ metric ∈ lineMetrics, ∀ group ∈ metric.groups, ∀ rule ∈ group.rules,
      (rule.check (editOf [1, 2, 3])).delta ≤ (rule.check (editOf [1])).delta := by
    decide
  have counted : ∃ metric ∈ lineMetrics, 0 < metric.weight := by
    refine ⟨_, List.mem_cons_self, ?_⟩
    norm_num
  have long : (scoreWith lineMetrics (editOf [1, 2, 3])).total = 80 := by decide +kernel
  have short : (scoreWith lineMetrics (editOf [1])).total = 93 := by decide +kernel
  obtain ⟨range, mono, between, -, -⟩ := scores_are_bounded_monotone_means weights
  have noMore := (mono _ _ below).2
  exact ⟨weights, (range _).2, lt_of_le_of_ne noMore (by rw [long, short]; decide), long, short,
    (between _ counted).2⟩

end EditImpact.Scoring
