import EditImpact.Scoring.Scorer
import Mathlib.Algebra.BigOperators.Ring.List
import Mathlib.Data.Rat.Floor
import Mathlib.Tactic.Linarith

/-!
# Weighted means in exact arithmetic

With rational weights a weighted mean is the quotient of two sums, rounded to the nearest whole
score. So scores that are all the same have that score as their mean, whatever the weights.
-/

namespace EditImpact.Scoring

set_option autoImplicit false

instance : Weighing ℚ where
  zero := 0
  add := (· + ·)
  scale score weight := score * weight
  divide := (· / ·)
  isPositive weight := 0 < weight
  nearestScore x := clampScore ⌊x + 1 / 2⌋
  ofPercent n := n / 100

theorem sum_weights_eq (weights : List ℚ) : sumWeights weights = weights.sum :=
  List.sum_eq_foldl.symm

theorem is_positive_iff (weight : ℚ) : Weighing.isPositive weight = true ↔ 0 < weight :=
  decide_eq_true_iff

theorem weighted_mean_eq (scored : List (Int × ℚ)) :
    weightedMean scored =
      clampScore ⌊(scored.map fun pair => (pair.1 : ℚ) * pair.2).sum /
        (scored.map (·.2)).sum + 1 / 2⌋ := by
  rw [← sum_weights_eq, ← sum_weights_eq]
  rfl

section Constant

variable {score : Int} {scored : List (Int × ℚ)}

theorem sum_scaled_of_all (all : ∀ pair ∈ scored, pair.1 = score) :
    (scored.map fun pair => (pair.1 : ℚ) * pair.2).sum = score * (scored.map (·.2)).sum := by
  rw [← List.sum_map_mul_left]
  apply congrArg List.sum
  apply List.map_congr_left
  intro pair member
  rw [all pair member]

theorem weighted_mean_of_all (lower : 0 ≤ score) (upper : score ≤ 100)
    (positive : 0 < (scored.map (·.2)).sum) (all : ∀ pair ∈ scored, pair.1 = score) :
    weightedMean scored = score := by
  have nearest : ⌊(score : ℚ) + 1 / 2⌋ = score := by
    rw [Int.floor_intCast_add]
    norm_num
  rw [weighted_mean_eq, sum_scaled_of_all all, mul_div_cancel_right₀ _ positive.ne', nearest]
  unfold clampScore
  omega

/-- Without any weight the total is 100 too. -/
theorem aggregate_of_all (all : ∀ pair ∈ scored, pair.1 = 100) : aggregate scored = 100 := by
  unfold aggregate
  split
  · next positive =>
      rw [is_positive_iff, sum_weights_eq] at positive
      exact weighted_mean_of_all (by decide) (by decide) positive all
  · rfl

end Constant

theorem combine_groups_of_all {subs : List (SubMetric ℚ)} (all : ∀ sub ∈ subs, sub.score = 100) :
    combineGroups subs = 100 := by
  have scored : ∀ pair ∈ subs.map (fun sub => (sub.score, sub.weight)), pair.1 = 100 := by
    intro pair member
    obtain ⟨sub, inside, rfl⟩ := List.mem_map.mp member
    exact all sub inside
  unfold combineGroups
  split
  · rfl
  · next sub => exact all sub List.mem_cons_self
  · next sub rest alone =>
      dsimp only
      split
      · next positive =>
          rw [is_positive_iff, sum_weights_eq] at positive
          exact weighted_mean_of_all (by decide) (by decide) positive scored
      · exact all sub List.mem_cons_self

end EditImpact.Scoring
