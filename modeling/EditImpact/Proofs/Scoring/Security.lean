import EditImpact.Proofs.Pattern.Lines
import EditImpact.Proofs.Scoring.Penalties
import Mathlib.Algebra.Order.BigOperators.Group.List

/-!
# Security falls with every further line

Every rule on security looks for patterns on single lines or for words in all changed lines, so
further changed lines only add findings. Words of validation alone could make up for one: while they
are missing, an edit that changes more lines scores no more, and at least 50 points less (but not
below 0) if it brings in the first secret (`security_falls_with_lines`).
-/

namespace EditImpact.Scoring

open Pattern

set_option autoImplicit false

/-- Two edits of one text, the second of which changes all lines that the first one changes. -/
structure Widens (narrow wide : Context) : Prop where
  current : narrow.current = wide.current
  lines : narrow.changedLines ⊆ wide.changedLines

/-- The pattern occurs on a changed line. -/
def Context.Shows (context : Context) (pattern : Pattern) : Prop :=
  ∃ pair ∈ context.changedPairs, pattern.occurs pair.2 = true

section Showing

variable {context narrow wide : Context} {pattern : Pattern}

theorem lines_matching_ne_nil_iff :
    context.linesMatching pattern ≠ [] ↔ context.Shows pattern := by
  simp [Context.linesMatching, Context.Shows, List.map_eq_nil_iff, List.filter_eq_nil_iff]

/-- What reads no newline and asks for nothing around it is found in the changed code by lines. -/
theorem occurs_in_code_iff (plain : pattern.isPlain = true) (avoiding : pattern.avoids '\n' = true)
    (nothing : pattern.occurs [] = false) :
    pattern.occurs context.changedCode = true ↔ context.Shows pattern := by
  unfold Context.changedCode Context.Shows
  cases pairs : context.changedPairs with
  | nil => simp [Text.joinWith, nothing]
  | cons pair others =>
      rw [occurs_joined_iff plain avoiding (by simp)]
      simp only [List.mem_map, exists_exists_and_eq_and]

theorem Widens.changed_pairs (widens : Widens narrow wide) :
    narrow.changedPairs ⊆ wide.changedPairs := by
  intro pair member
  simp only [Context.changedPairs, Context.lines, widens.current, List.mem_filterMap] at member ⊢
  obtain ⟨n, changed, found⟩ := member
  exact ⟨n, widens.lines changed, found⟩

theorem Widens.shows (widens : Widens narrow wide) (shown : narrow.Shows pattern) :
    wide.Shows pattern := by
  obtain ⟨pair, member, occurs⟩ := shown
  exact ⟨pair, widens.changed_pairs member, occurs⟩

end Showing

namespace Security

variable {context narrow wide : Context}

/-! ## Secrets -/

/-- The line looks like one with a secret in it. -/
def HasSecret (line : List Char) : Prop := ∃ pattern ∈ secretPatterns, pattern.occurs line = true

instance : DecidablePred HasSecret := fun line =>
  inferInstanceAs (Decidable (∃ pattern ∈ secretPatterns, pattern.occurs line = true))

/-- There is a secret on a changed line. -/
def ShowsSecret (context : Context) : Prop := ∃ pair ∈ context.changedPairs, HasSecret pair.2

instance : DecidablePred ShowsSecret := fun context =>
  inferInstanceAs (Decidable (∃ pair ∈ context.changedPairs, HasSecret pair.2))

theorem secrets_delta_of_secret (shown : ShowsSecret context) :
    (secrets.check context).delta = -50 := by
  obtain ⟨pair, member, pattern, listed, occurs⟩ := shown
  simp only [secrets]
  split
  · next none =>
      have missing := List.findSome?_eq_none_iff.mp none pattern listed
      rw [List.head?_eq_none_iff] at missing
      exact absurd missing (lines_matching_ne_nil_iff.mpr ⟨pair, member, occurs⟩)
  · rfl

theorem secrets_delta_of_none (clean : ¬ ShowsSecret context) :
    (secrets.check context).delta = 0 := by
  simp only [secrets]
  split
  · rfl
  · next line found =>
      obtain ⟨pattern, listed, here⟩ := List.exists_of_findSome?_eq_some found
      have matching : context.linesMatching pattern ≠ [] := by
        intro nothing
        rw [nothing] at here
        cases here
      obtain ⟨pair, member, occurs⟩ := lines_matching_ne_nil_iff.mp matching
      exact absurd ⟨pair, member, pattern, listed, occurs⟩ clean

theorem ShowsSecret.widen (shown : ShowsSecret narrow) (widens : Widens narrow wide) :
    ShowsSecret wide := by
  obtain ⟨pair, member, secret⟩ := shown
  exact ⟨pair, widens.changed_pairs member, secret⟩

theorem secrets_fall (widens : Widens narrow wide) :
    (secrets.check wide).delta ≤ (secrets.check narrow).delta := by
  by_cases shown : ShowsSecret narrow
  · rw [secrets_delta_of_secret shown, secrets_delta_of_secret (shown.widen widens)]
  · rw [secrets_delta_of_none shown]
    exact rules_no_bonus secrets (by simp) wide

/-! ## Dangerous calls -/

theorem dangerous_apis_fall (widens : Widens narrow wide) :
    (dangerousApis.check wide).delta ≤ (dangerousApis.check narrow).delta := by
  rw [dangerous_apis_delta, dangerous_apis_delta]
  apply List.sum_le_sum
  intro call _
  by_cases absent : narrow.linesMatching call.1 = []
  · rw [callPenalty.eq_def narrow, absent]
    exact call_penalty_nonpos wide call
  · have shown := lines_matching_ne_nil_iff.mp absent
    have wider := lines_matching_ne_nil_iff.mpr (widens.shows shown)
    simp only [callPenalty, List.isEmpty_iff, absent, wider, if_false, le_refl]

/-! ## Input -/

/-- Words that show that input is validated. -/
def validationWords : List String := ["validate", "sanitize", "escape", "encode"]

theorem validation_iff {code : List Char} :
    validation.occurs code = true ↔ HoldsWord validationWords code :=
  occurs_any_word_iff (List.cons_ne_nil _ _)

theorem input_source_iff : inputSources.any (·.occurs context.changedCode) = true ↔
    ∃ pattern ∈ inputSources, context.Shows pattern := by
  have lineByLine : ∀ pattern ∈ inputSources,
      pattern.isPlain = true ∧ pattern.avoids '\n' = true ∧ pattern.occurs [] = false := by
    decide +kernel
  rw [List.any_eq_true]
  apply exists_congr
  intro pattern
  apply and_congr_right
  intro listed
  obtain ⟨plain, avoiding, nothing⟩ := lineByLine pattern listed
  exact occurs_in_code_iff plain avoiding nothing

theorem input_validation_delta (context : Context) : (inputValidation.check context).delta =
    if inputSources.any (·.occurs context.changedCode) && !validation.occurs context.changedCode
    then -10 else 0 := by
  simp only [inputValidation]
  cases inputSources.any (·.occurs context.changedCode) <;>
    cases validation.occurs context.changedCode <;> rfl

theorem input_validation_fall (widens : Widens narrow wide)
    (unvalidated : ¬ HoldsWord validationWords wide.changedCode) :
    (inputValidation.check wide).delta ≤ (inputValidation.check narrow).delta := by
  by_cases asked : inputSources.any (·.occurs narrow.changedCode) = true
  · obtain ⟨pattern, listed, shown⟩ := input_source_iff.mp asked
    have wider := input_source_iff.mpr ⟨pattern, listed, widens.shows shown⟩
    have unchecked : validation.occurs wide.changedCode = false := by
      rw [← Bool.not_eq_true, validation_iff]
      exact unvalidated
    rw [input_validation_delta, input_validation_delta, asked, wider, unchecked]
    cases validation.occurs narrow.changedCode <;> decide
  · rw [input_validation_delta narrow, Bool.eq_false_iff.mpr asked]
    exact rules_no_bonus inputValidation (by simp) wide

/-! ## The metric -/

variable {Weight : Type} [Weighing Weight]

/-- How the edit scores on security. -/
def securityScore (Weight : Type) [Weighing Weight] (context : Context) : Int :=
  ((metric : Metric Weight).evaluate context).score

/-- It is the score that the default metrics report. -/
theorem security_score_reported (context : Context) :
    ((scoreWith (defaultMetrics : List (Metric Weight)) context).metric? .security).map (·.score) =
      some (securityScore Weight context) := rfl

theorem security_score_eq (context : Context) :
    securityScore Weight context = max 0 (100 + (secrets.check context).delta +
      (dangerousApis.check context).delta + (inputValidation.check context).delta) := by
  have secret := rules_no_bonus secrets (by simp) context
  have calls := rules_no_bonus dangerousApis (by simp) context
  have input := rules_no_bonus inputValidation (by simp) context
  have group : securityScore Weight context = foldDeltas [(secrets.check context).delta,
      (dangerousApis.check context).delta, (inputValidation.check context).delta] := rfl
  rw [group, fold_of_penalties (by simp [secret, calls, input]), lessPenalties]
  simp only [List.map_cons, List.map_nil, List.sum_cons, List.sum_nil]
  omega

/-- Without words of validation an edit that changes more lines scores no more on security. The
first secret costs 50 points, as far as there are that many left. -/
theorem security_falls_with_lines (widens : Widens narrow wide)
    (unvalidated : ¬ HoldsWord validationWords wide.changedCode) :
    securityScore Weight wide ≤ securityScore Weight narrow ∧
    (¬ ShowsSecret narrow → ShowsSecret wide →
      securityScore Weight wide ≤ max 0 (securityScore Weight narrow - 50) ∧
      (0 < securityScore Weight narrow →
        securityScore Weight wide < securityScore Weight narrow)) := by
  have secret := secrets_fall widens
  have calls := dangerous_apis_fall widens
  have input := input_validation_fall widens unvalidated
  simp only [security_score_eq]
  refine ⟨by omega, fun clean shown => ?_⟩
  rw [secrets_delta_of_secret shown, secrets_delta_of_none clean]
  constructor <;> omega

/-- A dangerous assignment, and a secret that is input as well. -/
def leakingText : List Char := "innerHTML=x\npwd='req.body'".toList

/-- The first secret of an edit is on its last line. -/
theorem leaking_line_costs_fifty :
    let edit (lines : List Int) : Context :=
      { path := "src/a.ts", current := leakingText, delta := { added := lines } }
    Widens (edit [1]) (edit [1, 2]) ∧
      ¬ HoldsWord validationWords (edit [1, 2]).changedCode ∧
      ¬ ShowsSecret (edit [1]) ∧ ShowsSecret (edit [1, 2]) ∧
      securityScore Float (edit [1, 2]) ≤ max 0 (securityScore Float (edit [1]) - 50) ∧
      0 < securityScore Float (edit [1]) ∧
      securityScore Float (edit [1, 2]) < securityScore Float (edit [1]) := by
  intro edit
  have widens : Widens (edit [1]) (edit [1, 2]) := ⟨rfl, by decide⟩
  have unvalidated : ¬ HoldsWord validationWords (edit [1, 2]).changedCode := by
    rw [← validation_iff]
    decide +kernel
  have clean : ¬ ShowsSecret (edit [1]) := by decide +kernel
  have shown : ShowsSecret (edit [1, 2]) := by decide +kernel
  have positive : 0 < securityScore Float (edit [1]) := by decide +kernel
  obtain ⟨-, falls⟩ := @security_falls_with_lines _ _ Float _ widens unvalidated
  obtain ⟨costs, less⟩ := falls clean shown
  exact ⟨widens, unvalidated, clean, shown, costs, positive, less positive⟩

end Security

end EditImpact.Scoring
