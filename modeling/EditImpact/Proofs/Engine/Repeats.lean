import EditImpact.Proofs.Baseline.Repeats
import EditImpact.Proofs.Engine.Outcomes
import EditImpact.Proofs.Engine.SnapshotHistory

/-!
# The same call twice

An analysis changes what the engine remembers, and the next one may find its baseline elsewhere. If
files and version control stay as they are, the second analysis is the first one again, or the text
is its own snapshot by then and there is nothing to compare (`second_analysis_repeats_or_rests`).
Clocks only matter to walks that are stopped.
-/

namespace EditImpact.Engine

open Baseline

set_option autoImplicit false

section Remembering

variable {Weight : Type} [Scoring.Weighing Weight] {engine : Engine} {around : Surroundings}
  {edit : Edit} {place : Place} {current : List Char} {origin : Origin} {request : Request}
  (caches : Caches)

/-- What an engine remembers matters only to the baseline. -/
theorem compares_with_caches (found : engine.placeOf around.files edit.path = .ok place)
    (admitted : Admitted engine.settings.scan around.files place.file edit.buffer current origin)
    (made : requestOf engine.settings.baseline place.file current edit.mode edit.target =
      .ok request) :
    Compares { engine with caches := caches } around edit place current origin
      (resolve engine.settings.baseline around caches request) :=
  ⟨found, admitted, request, made, rfl⟩

theorem against_with_caches (files : Files.FileSystem) (baseline : Resolved) :
    ({ engine with caches := caches }.against files place edit current origin baseline :
      Files.Timed (Analysis Weight)) =
      engine.against files place edit current origin baseline := rfl

end Remembering

/-- An engine that was used in any way analyses a text that passes the guards, and then the same
call is made once more while files and version control stay as they are and no walk is stopped. With
a baseline from version control, or where no snapshots are kept, the second analysis is the first
one. Otherwise the text is its own snapshot by then, and there is nothing left to compare. -/
theorem second_analysis_repeats_or_rests {tools : Tools} {root : Path} {settings : Settings}
    {calls : List Call} {reached : Engine} {around : Surroundings} {clock again : Files.Clock}
    {edit : Edit} {place : Place} {first second : Reply (Except Failure (Analysis ℚ))}
    {analysis : Analysis ℚ}
    (reaches : (run ℚ { tools := tools, root := root, settings := settings } calls).2 = reached)
    (replied : reached.analyze around clock edit = first)
    (answered : first.answer = .ok analysis)
    (found : reached.placeOf around.files edit.path = .ok place)
    (accepted : ∀ reason origin,
      ¬Rejected reached.settings.scan around.files place.file edit.buffer reason origin)
    (inTime : first.stopped = false)
    (repliedAgain : first.engine.analyze around again edit = second)
    (inTimeAgain : second.stopped = false) :
    (analysis.baseline.kind.isVersioned = true ∨ settings.baseline.keepSnapshots = false →
      second.answer = .ok analysis) ∧
    (¬(analysis.baseline.kind.isVersioned = true ∨ settings.baseline.keepSnapshots = false) →
      ∃ next, second.answer = .ok next ∧ next.baseline.kind = .snapshot ∧
        next.report = .empty place.shown ∧ next.status = .notAttempted ∧ next.delta = {} ∧
        next.confidence.total = 100) := by
  obtain ⟨rfl, rfl⟩ : reached.root = root ∧ reached.settings = settings := by
    rw [← reaches, run_engine]
    exact ⟨rfl, rfl⟩
  have versioned : AllVersioned reached.caches.refs := by
    rw [← reaches]
    exact run_versioned all_versioned_empty calls
  cases analyze_ends replied with
  | failed | unmade => cases answered
  | turnedAway other reason origin there turned =>
      rw [found] at there
      cases there
      exact absurd turned (accepted reason origin)
  | compared other current origin outcome answer stopped later compares ran =>
      cases answered
      cases inTime
      obtain ⟨there, admitted, request, made, resolved⟩ := compares
      rw [found] at there
      cases there
      obtain ⟨samePath, sameText⟩ := request_of_ok made
      obtain ⟨repeats, rests⟩ := resolve_again versioned resolved
      rw [samePath, sameText] at repeats rests
      have named := against_gives_baseline reached around.files place edit current origin
        outcome.baseline clock analysis (congrArg Files.Lapse.answer ran)
      have comparesAgain := compares_with_caches
        (recorded reached.settings.baseline place.file current outcome) found admitted made
      obtain rfl := repliedAgain.symm.trans (analyze_of_compares comparesAgain rfl)
      rw [against_with_caches] at inTimeAgain ⊢
      rw [named]
      constructor
      · intro repeated
        rw [repeats repeated] at inTimeAgain ⊢
        have steady := reached.against_steady place edit current origin outcome.baseline
          (congrArg Files.Lapse.stopped ran) inTimeAgain
        exact steady.symm.trans (congrArg Files.Lapse.answer ran)
      · intro fallen
        rw [not_or, Bool.not_eq_true, Bool.not_eq_false] at fallen
        obtain ⟨skip, taken⟩ := rests fallen.1 fallen.2
        have idle : (resolve reached.settings.baseline around
            (recorded reached.settings.baseline place.file current outcome) request).baseline.isIdle
            current = true := is_idle_iff.mpr (.inr (by rw [taken]; rfl))
        rw [against_idle idle, taken]
        exact ⟨_, rfl, rfl, rfl, rfl, rfl, unchanged_total ..⟩

/-- A repository whose head has one text of every file. -/
def oneTextVcs (text : List Char) : Vcs where
  root := none
  currentRef := .ok (some "c1")
  isTracked _ := .ok true
  mergeBase _ := .ok none
  readAt _ _ := .ok (some text)

/-- The second analysis finds the text of the head in the cache, by another clock. -/
theorem analysis_against_head_repeats :
    let before := "func F(a int) \x7b\x7d\n".toList
    let after := "func K() \x7b\x7d\n".toList
    let engine : Engine := { tools := plainTools, root := ⟨.slash, ["work"]⟩ }
    let around : Surroundings := ⟨unreadableFiles, some (oneTextVcs before)⟩
    let edit : Edit := { path := ⟨.relative, ["a.go"]⟩, buffer := some (Text.given after) }
    ∃ (first : Reply (Except Failure (Analysis ℚ))) (analysis : Analysis ℚ),
      engine.analyze around ⟨fun _ => 0⟩ edit = first ∧ first.answer = .ok analysis ∧
        analysis.baseline.kind = .head ∧
        (first.engine.analyze around ⟨fun _ => 1⟩ edit).answer = .ok analysis := by
  intro before after engine around edit
  let place : Place := ⟨⟨.slash, ["work", "a.go"]⟩, "a.go"⟩
  have admitted : Admitted engine.settings.scan around.files place.file edit.buffer after
      .buffer := ⟨⟨by decide, nofun⟩, rfl, by decide, 5242880, by decide, by decide⟩
  obtain ⟨outcome, compares, baseline⟩ : ∃ outcome,
      Compares engine around edit place after .buffer outcome ∧
        outcome.baseline = headBaseline none ⟨Text.given before, some "c1"⟩ :=
    ⟨_, .of_made rfl admitted rfl, rfl⟩
  have whole : outcome.baseline.text = Text.given before := by rw [baseline]; rfl
  obtain ⟨analysis, against⟩ : ∃ analysis : Analysis ℚ, ((engine.against around.files place edit
      after .buffer outcome.baseline).run ⟨fun _ => 0⟩).answer = .ok analysis :=
    engine.against_answers place edit after .buffer outcome.baseline
      (fun path => ⟨path.resolve, rfl⟩) (by decide) whole _
  have kind : analysis.baseline.kind = .head := by
    rw [against_gives_baseline engine around.files place edit after .buffer outcome.baseline _
      analysis against, baseline]
    rfl
  generalize replied : (engine.analyze around ⟨fun _ => 0⟩ edit :
    Reply (Except Failure (Analysis ℚ))) = first
  have answered : first.answer = .ok analysis := by
    rw [← replied, analyze_of_compares compares rfl]
    exact against
  have patient (time : Float) (still : ¬time + 10 < time) :
      ¬time + first.engine.settings.scan.timeout < time := by
    rw [analyze_engine replied]
    exact still
  have reaches : (run ℚ engine []).2 = engine := rfl
  obtain ⟨repeats, -⟩ := second_analysis_repeats_or_rests reaches replied answered compares.found
    (fun _ _ => compares.not_rejected) (engine.analyze_still edit (by decide +kernel) replied) rfl
    (first.engine.analyze_still edit (patient 1 (by decide +kernel)) rfl)
  refine ⟨first, analysis, rfl, answered, kind, repeats (.inl ?_)⟩
  rw [kind]
  rfl

end EditImpact.Engine
