import EditImpact.Proofs.ChangeSet.Difference
import EditImpact.Proofs.Engine.Calls
import EditImpact.Proofs.Scoring.Quiet

/-!
# What an analysis tells

An analysis that succeeds was turned away, had nothing to compare, or compared two texts. `Course`
says what each of these comes to. The status of the answer says which it was, and the other parts of
the answer agree with it (`status_tells_outcome`): an empty report never stands for texts that could
not be taken apart. Inventories and lines may be compared in any way.
-/

namespace EditImpact

set_option autoImplicit false

open Files.Timed

namespace Impact

/-- A report lists its issues in a fixed order, and what is broken as the change set does. -/
structure Report.Tells (report : Report) (shown : String) (changes : ChangeSet) : Prop where
  source : report.sourceFile = shown
  functions : report.functions = changes.functions
  classes : report.classes = changes.classes
  issues : report.issues =
    issuesOf report.downstreamFiles report.tests report.functions report.classes
  unexplained : report.reason = none
  empty : report.isEmpty = changes.isEmpty

theorem report_tells {files : Files.FileSystem} {source root : Path} {shown : String}
    (scan : Settings.Scan) (shows : shownFrom files root source = .ok shown)
    (changes : ChangeSet) :
    Gives (·.Tells shown changes) (report files scan source root changes) := by
  unfold report
  have named : Gives (· = shown) (told (shownFrom files root source)) :=
    gives_told fun text same => Except.ok.inj (same.symm.trans shows)
  refine named.bind fun text same => ?_
  subst same
  split
  · next nothing =>
      have empty := nothing
      simp only [ChangeSet.isEmpty, Bool.and_eq_true, List.isEmpty_iff] at empty
      exact gives_pure ⟨rfl, empty.1.symm, empty.2.symm, rfl, rfl, nothing.symm⟩
  · next something =>
      have full : (changes.functions.isEmpty && changes.classes.isEmpty) = false :=
        Bool.eq_false_of_not_eq_true something
      refine (gives_any _).bind fun scanned _ => (gives_any _).bind fun found _ =>
        (gives_any _).bind fun downstream _ => (gives_any _).bind fun tests _ =>
          gives_pure ⟨rfl, rfl, rfl, rfl, rfl, ?_⟩
      simp only [Report.isEmpty, ChangeSet.isEmpty, full, Bool.false_and]

end Impact

namespace Engine

open Baseline

theorem rejected_total (shown : String) (reason : Reason) (origin : Option Origin) :
    (rejected shown reason origin : Analysis ℚ).confidence.total = 100 :=
  Scoring.score_of_untouched ⟨rfl, Nat.zero_le 100⟩

theorem unchanged_total (shown : String) (current : List Char) (resolution : Resolution)
    (origin : Origin) :
    (unchanged shown current resolution origin : Analysis ℚ).confidence.total = 100 :=
  Scoring.score_of_untouched ⟨rfl, Nat.zero_le 100⟩

/-- There is nothing to compare with a baseline. -/
def Idle (current : List Char) (baseline : Resolved) : Prop :=
  baseline.isEmpty = true ∨ baseline.text = Text.given current

/-- Both texts of a comparison can be taken apart. -/
def Inventoried (engine : Engine) (place : Place) (before current : List Char) : Prop :=
  (engine.tools.collect before (Files.languageOf place.file)).status ≠ .failed ∧
    (engine.tools.collect current (Files.languageOf place.file)).status ≠ .failed

section Comparing

variable {Weight : Type} [Scoring.Weighing Weight] (engine : Engine) {files : Files.FileSystem}
  {place : Place} (edit : Edit) {current : List Char} (origin : Origin) {baseline : Resolved}

/-- The changes that an analysis reports on. -/
def changesOf (place : Place) (before current : List Char) : ChangeSet :=
  ChangeSet.betweenWith engine.tools.collect before current (Files.languageOf place.file)

theorem report_on_tells (shows : Impact.shownFrom files engine.root place.file = .ok place.shown)
    (changes : ChangeSet) :
    Gives (fun report => if changes.status = .failed then
        report = .empty place.shown (some "parse_failed") else report.Tells place.shown changes)
      (engine.reportOn files place changes) := by
  unfold reportOn
  by_cases failed : changes.status = .failed
  · rw [if_pos (beq_iff_eq.mpr failed)]
    simp only [if_pos failed]
    exact gives_pure rfl
  · rw [if_neg (mt beq_iff_eq.mp failed)]
    simp only [if_neg failed]
    exact Impact.report_tells _ shows changes

/-- What a comparison tells: the status and the report are those of the change set. -/
theorem compared_tells (shows : Impact.shownFrom files engine.root place.file = .ok place.shown) :
    Gives (fun analysis => ∃ before, baseline.text = Text.given before ∧
        analysis.status = (engine.changesOf place before current).status ∧
        if (engine.changesOf place before current).status = .failed then
          analysis.report = .empty place.shown (some "parse_failed")
        else analysis.report.Tells place.shown (engine.changesOf place before current))
      (engine.compared files place edit current origin baseline :
        Files.Timed (Analysis Weight)) := by
  unfold compared
  have whole : Gives (baseline.text = Text.given ·) (told (encodable baseline.text)) :=
    gives_told fun before => encodable_eq_ok_iff.mp
  refine whole.bind fun before whole => ?_
  exact (report_on_tells engine shows _).bind fun report tells =>
    (gives_any _).bind fun context _ => gives_pure ⟨before, whole, rfl, tells⟩

end Comparing

/-- The courses that an analysis can take, and what each comes to. -/
inductive Course (engine : Engine) (around : Surroundings) (edit : Edit) (place : Place) :
    Analysis ℚ → Prop where
  | turnedAway (reason : Reason) (origin : Option Origin)
    (turned : Rejected engine.settings.scan around.files place.file edit.buffer reason origin) :
    Course engine around edit place (rejected place.shown reason origin)
  | idle (current : List Char) (origin : Origin) (outcome : Outcome)
    (compares : Compares engine around edit place current origin outcome)
    (idle : Idle current outcome.baseline) :
    Course engine around edit place
      (unchanged place.shown current outcome.baseline.resolution origin)
  | unread (current : List Char) (origin : Origin) (outcome : Outcome) (before : List Char)
    (analysis : Analysis ℚ) (compares : Compares engine around edit place current origin outcome)
    (differ : ¬Idle current outcome.baseline) (whole : outcome.baseline.text = Text.given before)
    (unread : ¬Inventoried engine place before current) (status : analysis.status = .failed)
    (report : analysis.report = .empty place.shown (some "parse_failed")) :
    Course engine around edit place analysis
  | compared (current : List Char) (origin : Origin) (outcome : Outcome) (before : List Char)
    (analysis : Analysis ℚ) (compares : Compares engine around edit place current origin outcome)
    (differ : ¬Idle current outcome.baseline) (whole : outcome.baseline.text = Text.given before)
    (taken : Inventoried engine place before current) (status : analysis.status = .success)
    (tells : analysis.report.Tells place.shown (engine.changesOf place before current)) :
    Course engine around edit place analysis

section Courses

variable {engine : Engine} {around : Surroundings} {clock : Files.Clock} {edit : Edit}
  {place : Place} {analysis : Analysis ℚ}

theorem inventoried_iff {before current : List Char} :
    Inventoried engine place before current ↔
      ¬ChangeSet.Unread engine.tools.collect (Files.languageOf place.file) before current :=
  not_or.symm

/-- A comparison takes one of the last three courses. -/
theorem course_of_compares {current : List Char} {origin : Origin} {outcome : Outcome}
    (compares : Compares engine around edit place current origin outcome)
    (answered : ((engine.against around.files place edit current origin outcome.baseline).run
      clock).answer = .ok analysis) :
    Course engine around edit place analysis := by
  cases idle : outcome.baseline.isIdle current with
  | true =>
      rw [against_idle idle] at answered
      cases answered
      exact .idle current origin outcome compares (is_idle_iff.mp idle)
  | false =>
      have differ : ¬Idle current outcome.baseline := by
        intro same
        rw [is_idle_iff.mpr same] at idle
        cases idle
      rw [against_compared idle] at answered
      have shows := (place_of_eq_ok_iff.mp compares.found).2
      obtain ⟨before, whole, status, told⟩ :=
        compared_tells engine edit origin shows clock analysis answered
      obtain ⟨same, -⟩ | ⟨-, unread, empty⟩ | ⟨-, read, success, -⟩ :=
        ChangeSet.between_cases engine.tools.collect (Files.languageOf place.file) before current
      · exact absurd (.inr (by rw [whole, same])) differ
      · have failed : (engine.changesOf place before current).status = .failed := by
          rw [changesOf, empty]
        rw [failed] at status
        rw [if_pos failed] at told
        exact .unread current origin outcome before analysis compares differ whole
          (mt inventoried_iff.mp (not_not.mpr unread)) status told
      · have done : (engine.changesOf place before current).status = .success := success
        rw [done] at status told
        exact .compared current origin outcome before analysis compares differ whole
          (inventoried_iff.mpr read) status told

/-- An analysis that succeeds takes one of the courses. -/
theorem course_of_answered (answered : (engine.analyze around clock edit).answer = .ok analysis) :
    ∃ place, engine.placeOf around.files edit.path = .ok place ∧
      Course engine around edit place analysis := by
  rcases replied : (engine.analyze around clock edit : Reply (Except Failure (Analysis ℚ))) with
    ⟨answer, next, questions, stopped, later⟩
  rw [replied] at answered
  cases answered
  cases analyze_ends replied with
  | turnedAway place reason origin found turned =>
      exact ⟨place, found, .turnedAway reason origin turned⟩
  | compared place current origin outcome _ _ _ compares ran =>
      exact ⟨place, compares.found, course_of_compares compares (congrArg Files.Lapse.answer ran)⟩

/-- A file that passes the guards is not turned away. -/
theorem Compares.not_rejected {current : List Char} {origin : Origin} {outcome : Outcome}
    (compares : Compares engine around edit place current origin outcome) {reason : Reason}
    {source : Option Origin} :
    ¬Rejected engine.settings.scan around.files place.file edit.buffer reason source := by
  intro turned
  have passed := verdict_of_judged (.admitted current origin compares.admitted)
  rw [verdict_of_rejected turned] at passed
  cases passed

end Courses

namespace Course

variable {engine : Engine} {around : Surroundings} {edit : Edit} {place : Place}
  {analysis : Analysis ℚ} (course : Course engine around edit place analysis)

include course

theorem failed_iff :
    analysis.status = .failed ↔ analysis.report.reason = some "parse_failed" := by
  cases course with
  | turnedAway reason origin turned =>
      have other : reason.text ≠ "parse_failed" := by cases turned <;> decide
      exact iff_of_false nofun fun explained => other (Option.some.inj explained)
  | idle => exact iff_of_false nofun nofun
  | unread current origin outcome before analysis compares differ whole unread status report =>
      refine iff_of_true status ?_
      rw [report]
      rfl
  | compared current origin outcome before analysis compares differ whole taken status tells =>
      rw [status, tells.unexplained]
      exact iff_of_false nofun nofun

theorem not_attempted_iff :
    analysis.status = .notAttempted ↔
      (∃ reason origin,
        Rejected engine.settings.scan around.files place.file edit.buffer reason origin) ∨
      ∃ current origin outcome, Compares engine around edit place current origin outcome ∧
        Idle current outcome.baseline := by
  cases course with
  | turnedAway reason origin turned => exact iff_of_true rfl (.inl ⟨reason, origin, turned⟩)
  | idle current origin outcome compares idle =>
      exact iff_of_true rfl (.inr ⟨current, origin, outcome, compares, idle⟩)
  | unread current origin outcome before analysis compares differ whole unread status report =>
      rw [status]
      refine iff_of_false nofun ?_
      rintro (⟨reason, source, turned⟩ | ⟨_, _, _, again, idle⟩)
      · exact compares.not_rejected turned
      · obtain ⟨-, rfl, -, rfl⟩ := compares.unique again
        exact differ idle
  | compared current origin outcome before analysis compares differ whole taken status tells =>
      rw [status]
      refine iff_of_false nofun ?_
      rintro (⟨reason, source, turned⟩ | ⟨_, _, _, again, idle⟩)
      · exact compares.not_rejected turned
      · obtain ⟨-, rfl, -, rfl⟩ := compares.unique again
        exact differ idle

theorem success_iff :
    analysis.status = .success ↔
      ∃ current origin outcome before, Compares engine around edit place current origin outcome ∧
        ¬Idle current outcome.baseline ∧ outcome.baseline.text = Text.given before ∧
        Inventoried engine place before current := by
  cases course with
  | turnedAway reason origin turned =>
      refine iff_of_false nofun ?_
      rintro ⟨_, _, _, _, compares, -⟩
      exact compares.not_rejected turned
  | idle current origin outcome compares idle =>
      refine iff_of_false nofun ?_
      rintro ⟨_, _, _, _, again, differ, -⟩
      obtain ⟨-, rfl, -, rfl⟩ := compares.unique again
      exact differ idle
  | unread current origin outcome before analysis compares differ whole unread status report =>
      rw [status]
      refine iff_of_false nofun ?_
      rintro ⟨_, _, _, _, again, -, same, taken⟩
      obtain ⟨-, rfl, -, rfl⟩ := compares.unique again
      rw [whole] at same
      obtain rfl := Text.given_injective same
      exact unread taken
  | compared current origin outcome before analysis compares differ whole taken status tells =>
      exact iff_of_true status
        ⟨current, origin, outcome, before, compares, differ, whole, taken⟩

theorem of_not_attempted (status : analysis.status = .notAttempted) :
    analysis.report = .empty place.shown analysis.report.reason ∧ analysis.delta = {} ∧
      analysis.confidence.total = 100 := by
  cases course with
  | turnedAway reason origin turned => exact ⟨rfl, rfl, rejected_total ..⟩
  | idle current origin outcome compares idle => exact ⟨rfl, rfl, unchanged_total ..⟩
  | unread _ _ _ _ _ _ _ _ _ other =>
      rw [status] at other
      cases other
  | compared _ _ _ _ _ _ _ _ _ other =>
      rw [status] at other
      cases other

theorem of_failed (status : analysis.status = .failed) :
    analysis.report = .empty place.shown (some "parse_failed") := by
  cases course with
  | turnedAway | idle => cases status
  | unread _ _ _ _ _ _ _ _ _ _ report => exact report
  | compared _ _ _ _ _ _ _ _ _ other =>
      rw [status] at other
      cases other

theorem of_success (status : analysis.status = .success) {current before : List Char}
    {origin : Origin} {outcome : Outcome}
    (compares : Compares engine around edit place current origin outcome)
    (whole : outcome.baseline.text = Text.given before) :
    analysis.report.Tells place.shown (engine.changesOf place before current) := by
  cases course with
  | turnedAway | idle => cases status
  | unread _ _ _ _ _ _ _ _ _ other =>
      rw [status] at other
      cases other
  | compared text source result known _ again _ there _ _ tells =>
      obtain ⟨-, rfl, -, rfl⟩ := compares.unique again
      rw [whole] at there
      obtain rfl := Text.given_injective there
      exact tells

theorem issues_listed :
    analysis.report.issues = Impact.issuesOf analysis.report.downstreamFiles analysis.report.tests
      analysis.report.functions analysis.report.classes := by
  cases course with
  | turnedAway | idle => rfl
  | unread _ _ _ _ _ _ _ _ _ _ report =>
      rw [report]
      rfl
  | compared _ _ _ _ _ _ _ _ _ _ tells => exact tells.issues

theorem of_rejected {reason : Reason} {origin : Option Origin}
    (turned : Rejected engine.settings.scan around.files place.file edit.buffer reason origin) :
    analysis.report.reason = some reason.text ∧ analysis.baseline.reason = some reason ∧
      analysis.baseline.kind = .none := by
  cases course with
  | turnedAway other source again =>
      have same := verdict_of_rejected again
      rw [verdict_of_rejected turned] at same
      cases same
      exact ⟨rfl, rfl, rfl⟩
  | idle _ _ _ compares => exact absurd turned compares.not_rejected
  | unread _ _ _ _ _ compares => exact absurd turned compares.not_rejected
  | compared _ _ _ _ _ compares => exact absurd turned compares.not_rejected

end Course

/-- The status of an analysis tells what became of the file, and everything else in the answer goes
with it. With weights that are exact, an analysis without a comparison has full confidence. -/
theorem status_tells_outcome {engine : Engine} {around : Surroundings} {clock : Files.Clock}
    {edit : Edit} {analysis : Analysis ℚ}
    (answered : (engine.analyze around clock edit).answer = .ok analysis) :
    ∃ place, engine.placeOf around.files edit.path = .ok place ∧
    let collect text := engine.tools.collect text (Files.languageOf place.file)
    (analysis.status = .failed ↔ analysis.report.reason = some "parse_failed") ∧
    (analysis.status = .failed → analysis.report = .empty place.shown (some "parse_failed")) ∧
    (analysis.status = .notAttempted ↔
      (∃ reason origin,
        Rejected engine.settings.scan around.files place.file edit.buffer reason origin) ∨
      ∃ current origin outcome, Compares engine around edit place current origin outcome ∧
        (outcome.baseline.isEmpty = true ∨ outcome.baseline.text = Text.given current)) ∧
    (analysis.status = .notAttempted →
      analysis.report = .empty place.shown analysis.report.reason ∧ analysis.delta = {} ∧
        analysis.confidence.total = 100) ∧
    (analysis.status = .success ↔
      ∃ current origin outcome before, Compares engine around edit place current origin outcome ∧
        ¬(outcome.baseline.isEmpty = true ∨ outcome.baseline.text = Text.given current) ∧
        outcome.baseline.text = Text.given before ∧
        (collect before).status ≠ .failed ∧ (collect current).status ≠ .failed) ∧
    (analysis.status = .success → ∀ current origin outcome before,
      Compares engine around edit place current origin outcome →
      outcome.baseline.text = Text.given before →
      let changes :=
        ChangeSet.betweenWith engine.tools.collect before current (Files.languageOf place.file)
      analysis.report.functions = changes.functions ∧
        analysis.report.classes = changes.classes ∧
        analysis.report.isEmpty = changes.isEmpty) ∧
    analysis.report.issues =
      analysis.report.downstreamFiles.map (⟨.downstream, ·⟩) ++
      analysis.report.tests.map (⟨.test, ·⟩) ++
      analysis.report.functions.map (⟨.function, ·⟩) ++
      analysis.report.classes.map (⟨.class, ·⟩) ∧
    ∀ reason origin,
      Rejected engine.settings.scan around.files place.file edit.buffer reason origin →
      analysis.report.reason = some reason.text ∧ analysis.baseline.reason = some reason ∧
        analysis.baseline.kind = .none := by
  obtain ⟨place, found, course⟩ := course_of_answered answered
  refine ⟨place, found, course.failed_iff, course.of_failed, course.not_attempted_iff,
    course.of_not_attempted, course.success_iff, ?_, course.issues_listed,
    fun _ _ => course.of_rejected⟩
  intro status current origin outcome before compares whole
  have told := course.of_success status compares whole
  exact ⟨told.functions, told.classes, told.empty⟩

/-- One function is gone from a buffer and one is new; the text on disk is the baseline. -/
theorem removed_function_told :
    let before := "func F(a int) \x7b\x7d\nfunc G() \x7b\x7d\n".toList
    let after := "func K() \x7b\x7d\nfunc G() \x7b\x7d\n".toList
    let files : Files.FileSystem :=
      { resolve := fun path => .ok path.resolve, read := fun _ => .ok before
        size := fun _ => none, listings := [] }
    let engine : Engine := { tools := plainTools, root := ⟨.slash, ["work"]⟩ }
    let edit : Edit := { path := ⟨.relative, ["a.go"]⟩, buffer := some (Text.given after) }
    ∃ analysis : Analysis ℚ,
      (engine.analyze ⟨files, none⟩ ⟨fun _ => 0⟩ edit).answer = .ok analysis ∧
        analysis.status = .success ∧ analysis.report.functions = ["F"] := by
  intro before after files engine edit
  let around : Surroundings := ⟨files, none⟩
  let place : Place := ⟨⟨.slash, ["work", "a.go"]⟩, "a.go"⟩
  have admitted : Admitted engine.settings.scan around.files place.file edit.buffer after
      .buffer := ⟨⟨by decide, nofun⟩, rfl, by decide, 5242880, by decide, by decide⟩
  have compares : ∃ outcome, Compares engine around edit place after .buffer outcome ∧
      outcome.baseline = ⟨Text.given before,
        { kind := .snapshot, available := true, reason := some (.fallback .noRepository) },
        false⟩ :=
    ⟨_, .of_made rfl admitted rfl, by decide +kernel⟩
  obtain ⟨outcome, compares, baseline⟩ := compares
  have whole : outcome.baseline.text = Text.given before := by rw [baseline]
  obtain ⟨analysis, against⟩ : ∃ analysis : Analysis ℚ, ((engine.against around.files place edit
      after .buffer outcome.baseline).run ⟨fun _ => 0⟩).answer = .ok analysis :=
    engine.against_answers place edit after .buffer outcome.baseline
      (fun path => ⟨path.resolve, rfl⟩) (by decide) whole _
  have answered : (engine.analyze around ⟨fun _ => 0⟩ edit).answer = .ok analysis := by
    rw [analyze_of_compares compares rfl]
    exact against
  obtain ⟨_, found, -, -, -, -, success, changes, -⟩ := status_tells_outcome answered
  rw [compares.found] at found
  cases found
  have differ : ¬(outcome.baseline.isEmpty = true ∨
      outcome.baseline.text = Text.given after) := by
    rw [baseline]
    decide +kernel
  have told := success.mpr ⟨after, .buffer, outcome, before, compares, differ, whole,
    by decide +kernel, by decide +kernel⟩
  exact ⟨analysis, answered, told,
    (changes told after .buffer outcome before compares whole).1.trans (by decide +kernel)⟩

end Engine

end EditImpact
