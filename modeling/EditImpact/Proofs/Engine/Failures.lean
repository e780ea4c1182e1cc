import EditImpact.Proofs.Engine.Calls

/-!
# When an analysis fails

A file that cannot be read and a mode that is not known are the two failures that are foreseen. Three
others are not: a path that leads nowhere, a size limit that is too large to be counted in bytes
(`huge_limit_overflows`), and a text that cannot be written as bytes. An analysis fails at once, when
nothing has been asked or remembered yet, or late, in the comparison with its baseline. Both have
their exact conditions in `failures_have_causes`.
-/

namespace EditImpact.Engine

open Baseline

set_option autoImplicit false

theorem mode_of_name_eq_none_iff {name : String} :
    Settings.Mode.ofName? name = none ↔ name ≠ "local" ∧ name ≠ "pr" := by
  unfold Settings.Mode.ofName?
  split
  · simp
  · simp
  · next other another => exact iff_of_true rfl ⟨other, another⟩

/-- A request can be made unless its mode has a name that is not known. -/
theorem request_of_eq_error_iff {settings : Settings.Baseline} {path : Path} {current : List Char}
    {mode target : Option String} {failure : Failure} :
    requestOf settings path current mode target = .error failure ↔
      ∃ name, mode = some name ∧ name ≠ "" ∧ name ≠ "local" ∧ name ≠ "pr" ∧
        failure = .modeUnknown name := by
  unfold requestOf
  cases mode with
  | none => simp
  | some name =>
      by_cases empty : name = ""
      · simp [empty]
      · have filled : name.isEmpty = false := by simpa using empty
        simp only [filled, Bool.false_eq_true, if_false]
        cases known : Settings.Mode.ofName? name with
        | none =>
            obtain ⟨notLocal, notPr⟩ := mode_of_name_eq_none_iff.mp known
            simp [empty, notLocal, notPr, eq_comm]
        | some mode =>
            refine iff_of_false (by simp) ?_
            rintro ⟨_, ⟨⟩, -, notLocal, notPr, -⟩
            rw [mode_of_name_eq_none_iff.mpr ⟨notLocal, notPr⟩] at known
            cases known

theorem opened_unbuffered_iff {scan : Settings.Scan} {files : Files.FileSystem} {path : Path} :
    Opened scan files path none ↔
      Files.isBinary path = false ∧
        (files.size path = none ∨ ∃ size, files.size path = some size ∧ Within scan size) := by
  constructor
  · intro opened
    refine ⟨opened.named, ?_⟩
    cases known : files.size path with
    | none => exact .inl rfl
    | some size => exact .inr ⟨size, rfl, opened.sized rfl size known⟩
  · rintro ⟨named, sized⟩
    refine ⟨named, ?_⟩
    intro _ size known
    obtain unknown | ⟨other, same, within⟩ := sized
    · rw [unknown] at known
      cases known
    · rw [same] at known
      cases known
      exact within

theorem Unmeasurable.uncountable {scan : Settings.Scan} {files : Files.FileSystem} {path : Path}
    {buffer : Option Text.Given} (reason : Unmeasurable scan files path buffer) :
    scan.byteLimit = none := by
  cases reason with
  | file size uncountable => exact uncountable
  | text text origin uncountable => exact uncountable

/-- The causes for which an analysis fails before it asks or remembers anything. -/
inductive FailsAtOnce (engine : Engine) (around : Surroundings) (edit : Edit) : Failure → Prop where
  | unfound (failure : Failure) (lost : engine.placeOf around.files edit.path = .error failure) :
    FailsAtOnce engine around edit failure
  | unmeasurable (place : Place) (found : engine.placeOf around.files edit.path = .ok place)
    (reason : Unmeasurable engine.settings.scan around.files place.file edit.buffer) :
    FailsAtOnce engine around edit (.limitUncountable (.ofFloat engine.settings.scan.sizeLimit))
  | unreadable (place : Place) (problem : Option String)
    (found : engine.placeOf around.files edit.path = .ok place)
    (opened : Opened engine.settings.scan around.files place.file edit.buffer)
    (unbuffered : edit.buffer = none) (read : around.files.read place.file = .error problem) :
    FailsAtOnce engine around edit (.fileUnreadable place.file.toString)
  | unencodable (place : Place) (why : Text.Halves)
    (found : engine.placeOf around.files edit.path = .ok place)
    (reason : Unencodable engine.settings.scan around.files place.file edit.buffer why) :
    FailsAtOnce engine around edit (.textUnencodable why)
  | modeUnknown (place : Place) (name : String) (text : List Char) (origin : Origin)
    (found : engine.placeOf around.files edit.path = .ok place)
    (admitted : Admitted engine.settings.scan around.files place.file edit.buffer text origin)
    (mode : edit.mode = some name) (unknown : name ≠ "" ∧ name ≠ "local" ∧ name ≠ "pr") :
    FailsAtOnce engine around edit (.modeUnknown name)

/-- A text is looked at in an analysis: the current one, or its baseline. -/
def Looked (engine : Engine) (around : Surroundings) (edit : Edit) (text : Text.Given) : Prop :=
  (∃ place origin, engine.placeOf around.files edit.path = .ok place ∧
    currentText around.files place.file edit.buffer = .ok (text, origin)) ∨
  ∃ place current origin outcome,
    Compares engine around edit place current origin outcome ∧ outcome.baseline.text = text

/-- A file is found unless a path on the way to it leads nowhere. -/
theorem place_lost {engine : Engine} {files : Files.FileSystem} {path : Path} {failure : Failure}
    (failed : engine.placeOf files path = .error failure) :
    ∃ path why, files.resolve path = .error why ∧ failure = .unresolvable why := by
  rw [placeOf, absolute] at failed
  cases leads : files.resolve (engine.root.join path) with
  | error why =>
      rw [Files.real_error leads] at failed
      cases failed
      exact ⟨_, why, leads, rfl⟩
  | ok file =>
      rw [Files.real_ok leads] at failed
      cases shown : Impact.shownFrom files engine.root file with
      | error other =>
          simp only [shown, bind, Except.bind] at failed
          cases failed
          exact Impact.lost_of_shown shown
      | ok text =>
          simp only [shown, bind, Except.bind] at failed
          cases failed

section AtOnce

variable {engine : Engine} {around : Surroundings} {edit : Edit}

theorem place_not_lost {files : Files.FileSystem} {path : Path} {failure : Failure}
    (other : ∀ why, failure ≠ .unresolvable why) : engine.placeOf files path ≠ .error failure := by
  intro lost
  obtain ⟨_, why, -, same⟩ := place_lost lost
  exact other why same

/-- Fails at once for a file that cannot be read. -/
theorem unreadable_at_once_iff {name : String} :
    FailsAtOnce engine around edit (.fileUnreadable name) ↔
      ∃ place, engine.placeOf around.files edit.path = .ok place ∧ name = place.file.toString ∧
        Files.isBinary place.file = false ∧ edit.buffer = none ∧
        (around.files.size place.file = none ∨
          ∃ size, around.files.size place.file = some size ∧ Within engine.settings.scan size) ∧
        ∃ problem, around.files.read place.file = .error problem := by
  constructor
  · intro fails
    cases fails with
    | unfound _ lost => exact absurd lost (place_not_lost (by simp))
    | unreadable place problem found opened unbuffered read =>
        rw [unbuffered] at opened
        obtain ⟨named, sized⟩ := opened_unbuffered_iff.mp opened
        exact ⟨place, found, rfl, named, unbuffered, sized, problem, read⟩
  · rintro ⟨place, found, rfl, named, unbuffered, sized, problem, read⟩
    refine .unreadable place problem found ?_ unbuffered read
    rw [unbuffered]
    exact opened_unbuffered_iff.mpr ⟨named, sized⟩

/-- Fails at once for a mode that is not known. -/
theorem mode_at_once_iff {name : String} :
    FailsAtOnce engine around edit (.modeUnknown name) ↔
      (∃ place text origin, engine.placeOf around.files edit.path = .ok place ∧
          Admitted engine.settings.scan around.files place.file edit.buffer text origin) ∧
        edit.mode = some name ∧ name ≠ "" ∧ name ≠ "local" ∧ name ≠ "pr" := by
  constructor
  · intro fails
    cases fails with
    | unfound _ lost => exact absurd lost (place_not_lost (by simp))
    | modeUnknown place _ text origin found admitted mode unknown =>
        exact ⟨⟨place, text, origin, found, admitted⟩, mode, unknown⟩
  · rintro ⟨⟨place, text, origin, found, admitted⟩, mode, unknown⟩
    exact .modeUnknown place name text origin found admitted mode unknown

/-- Fails at once for a limit that is no number of bytes. -/
theorem limit_at_once_iff {why : Uncountable} :
    FailsAtOnce engine around edit (.limitUncountable why) ↔
      ∃ place, engine.placeOf around.files edit.path = .ok place ∧
        Unmeasurable engine.settings.scan around.files place.file edit.buffer ∧
        why = .ofFloat engine.settings.scan.sizeLimit := by
  constructor
  · intro fails
    cases fails with
    | unfound _ lost => exact absurd lost (place_not_lost (by simp))
    | unmeasurable place found reason => exact ⟨place, found, reason, rfl⟩
  · rintro ⟨place, found, reason, rfl⟩
    exact .unmeasurable place found reason

end AtOnce

section Failing

variable {Weight : Type} [Scoring.Weighing Weight] {engine : Engine} {around : Surroundings}
  {clock : Files.Clock} {edit : Edit} {failure : Failure}

/-- An analysis fails in the comparison with its baseline. -/
def FailsLate (Weight : Type) [Scoring.Weighing Weight] (engine : Engine) (around : Surroundings)
    (clock : Files.Clock) (edit : Edit) (failure : Failure) : Prop :=
  ∃ place current origin outcome, Compares engine around edit place current origin outcome ∧
    ((engine.against around.files place edit current origin outcome.baseline :
      Files.Timed (Analysis Weight)).run clock).answer = .error failure

theorem analyze_of_fails_at_once (fails : FailsAtOnce engine around edit failure) :
    (engine.analyze around clock edit : Reply (Except Failure (Analysis Weight))) =
      ⟨.error failure, engine, [], false, clock⟩ := by
  have unjudged {place : Place} (found : engine.placeOf around.files edit.path = .ok place)
      {other : Failure}
      (judged : Judged engine.settings.scan around.files place.file edit.buffer (.error other)) :
      engine.judged around.files edit = .error other := by
    rw [judged_of_place found, verdict_of_judged judged]
    rfl
  cases fails with
  | unfound failure lost => exact analyze_of_not_judged (judged_of_no_place lost)
  | unmeasurable place found reason =>
      exact analyze_of_not_judged (unjudged found (.unmeasurable reason))
  | unreadable place problem found opened unbuffered read =>
      exact analyze_of_not_judged (unjudged found (.unreadable problem opened unbuffered read))
  | unencodable place why found reason =>
      exact analyze_of_not_judged (unjudged found (.unencodable why reason))
  | modeUnknown place name text origin found admitted mode unknown =>
      exact analyze_of_no_request found admitted (request_of_eq_error_iff.mpr
        ⟨name, mode, unknown.1, unknown.2.1, unknown.2.2, rfl⟩)

/-- An analysis fails at once or late. -/
theorem answer_eq_error_iff :
    (engine.analyze around clock edit : Reply (Except Failure (Analysis Weight))).answer =
      .error failure ↔
        FailsAtOnce engine around edit failure ∨ FailsLate Weight engine around clock edit failure := by
  constructor
  · intro answered
    rcases replied : (engine.analyze around clock edit :
      Reply (Except Failure (Analysis Weight))) with ⟨answer, next, questions, stopped, later⟩
    rw [replied] at answered
    cases answered
    cases analyze_ends replied with
    | failed _ unjudged =>
        left
        cases found : engine.placeOf around.files edit.path with
        | error other =>
            rw [judged_of_no_place found] at unjudged
            cases unjudged
            exact .unfound failure found
        | ok place =>
            rw [judged_of_place found] at unjudged
            cases said : verdict engine.settings.scan around.files place.file edit.buffer with
            | ok judgement =>
                rw [said] at unjudged
                cases unjudged
            | error other =>
                rw [said] at unjudged
                cases unjudged
                cases verdict_eq_iff.mp said with
                | unmeasurable reason => exact .unmeasurable place found reason
                | unreadable problem opened unbuffered read =>
                    exact .unreadable place problem found opened unbuffered read
                | unencodable why reason => exact .unencodable place why found reason
    | unmade place current origin _ found admitted unmade =>
        obtain ⟨name, mode, filled, notLocal, notPr, rfl⟩ := request_of_eq_error_iff.mp unmade
        exact .inl (.modeUnknown place name current origin found admitted mode
          ⟨filled, notLocal, notPr⟩)
    | compared place current origin outcome _ _ _ compares ran =>
        exact .inr ⟨place, current, origin, outcome, compares, congrArg Files.Lapse.answer ran⟩
  · rintro (fails | ⟨place, current, origin, outcome, compares, failed⟩)
    · rw [analyze_of_fails_at_once fails]
    · rw [analyze_of_compares compares rfl]
      exact failed

/-- What fails late are paths that lead nowhere and baselines without bytes. -/
theorem late_cause (fails : FailsLate Weight engine around clock edit failure) :
    (∃ path why, around.files.resolve path = .error why ∧ failure = .unresolvable why) ∨
      ∃ place current origin outcome why, Compares engine around edit place current origin outcome ∧
        Text.characters outcome.baseline.text = .error why ∧ failure = .textUnencodable why := by
  obtain ⟨place, current, origin, outcome, compares, failed⟩ := fails
  obtain ⟨limit, counted, -⟩ := compares.admitted.small
  have foreseen := engine.against_holds Weight
    (.fails around.files engine.settings.scan (fun failure =>
      Impact.Obstacle around.files engine.settings.scan failure ∨
        ∃ why, Text.characters outcome.baseline.text = .error why ∧ failure = .textUnencodable why)
      fun _ => .inl) place edit current origin outcome.baseline
    fun _ why stuck => .inr ⟨why, stuck, rfl⟩
  rcases foreseen clock failure failed with obstacle | ⟨why, stuck, rfl⟩
  · cases obstacle with
    | lost path why lost => exact .inl ⟨path, why, lost, rfl⟩
    | uncountable noLimit =>
        rw [counted] at noLimit
        cases noLimit
  · exact .inr ⟨place, current, origin, outcome, why, compares, stuck, rfl⟩

/-- Other failures are met at once or not at all. -/
theorem error_iff_at_once (path : ∀ why, failure ≠ .unresolvable why)
    (text : ∀ why, failure ≠ .textUnencodable why) :
    (engine.analyze around clock edit : Reply (Except Failure (Analysis Weight))).answer =
      .error failure ↔ FailsAtOnce engine around edit failure := by
  rw [answer_eq_error_iff]
  refine or_iff_left fun late => ?_
  rcases late_cause late with ⟨_, why, -, same⟩ | ⟨_, _, _, _, why, -, -, same⟩
  · exact path why same
  · exact text why same

/-- All causes of a failure, at once or late. -/
theorem failure_cause
    (failed : (engine.analyze around clock edit :
      Reply (Except Failure (Analysis Weight))).answer = .error failure) :
    (∃ name, failure = .fileUnreadable name) ∨ (∃ name, failure = .modeUnknown name) ∨
      (engine.settings.scan.byteLimit = none ∧ ∃ why, failure = .limitUncountable why) ∨
      (∃ path why, around.files.resolve path = .error why ∧ failure = .unresolvable why) ∨
      ∃ text why, Looked engine around edit text ∧ Text.characters text = .error why ∧
        failure = .textUnencodable why := by
  rcases answer_eq_error_iff.mp failed with atOnce | late
  · cases atOnce with
    | unfound _ lost => exact .inr (.inr (.inr (.inl (place_lost lost))))
    | unmeasurable place found reason => exact .inr (.inr (.inl ⟨reason.uncountable, _, rfl⟩))
    | unreadable place problem found opened unbuffered read => exact .inl ⟨_, rfl⟩
    | unencodable place why found reason =>
        obtain ⟨text, origin, taken, -, stuck⟩ := reason.taken
        exact .inr (.inr (.inr (.inr
          ⟨text, why, .inl ⟨place, origin, found, taken⟩, stuck, rfl⟩)))
    | modeUnknown place name text origin found admitted mode unknown =>
        exact .inr (.inl ⟨name, rfl⟩)
  · rcases late_cause late with lost | ⟨place, current, origin, outcome, why, compares, stuck, same⟩
    · exact .inr (.inr (.inr (.inl lost)))
    · exact .inr (.inr (.inr (.inr
        ⟨_, why, .inr ⟨place, current, origin, outcome, compares, rfl⟩, stuck, same⟩)))

end Failing

/-- An analysis fails for a file that cannot be read and for a mode that is not known, and each of the
two on its exact condition. For anything else it fails only where some path leads nowhere, where the
size limit is no number of bytes, or where a text that it looks at has no bytes. If it fails at once,
or a guard turns the file away, the engine is as it was, and version control was not asked; late it
fails only for a path or for the bytes of the baseline. -/
theorem failures_have_causes (Weight : Type) [Scoring.Weighing Weight] (engine : Engine)
    (around : Surroundings) (clock : Files.Clock) (edit : Edit) :
    let files := around.files
    let scan := engine.settings.scan
    let reply : Reply (Except Failure (Analysis Weight)) := engine.analyze around clock edit
    (∀ name, reply.answer = .error (.fileUnreadable name) ↔
      ∃ place, engine.placeOf files edit.path = .ok place ∧ name = place.file.toString ∧
        Files.isBinary place.file = false ∧ edit.buffer = none ∧
        (files.size place.file = none ∨
          ∃ size, files.size place.file = some size ∧ Within scan size) ∧
        ∃ problem, files.read place.file = .error problem) ∧
    (∀ name, reply.answer = .error (.modeUnknown name) ↔
      (∃ place text origin, engine.placeOf files edit.path = .ok place ∧
          Admitted scan files place.file edit.buffer text origin) ∧
        edit.mode = some name ∧ name ≠ "" ∧ name ≠ "local" ∧ name ≠ "pr") ∧
    (∀ why, reply.answer = .error (.limitUncountable why) ↔
      ∃ place, engine.placeOf files edit.path = .ok place ∧
        Unmeasurable scan files place.file edit.buffer ∧ why = .ofFloat scan.sizeLimit) ∧
    (∀ failure, reply.answer = .error failure →
      (∃ name, failure = .fileUnreadable name) ∨ (∃ name, failure = .modeUnknown name) ∨
        (scan.byteLimit = none ∧ ∃ why, failure = .limitUncountable why) ∨
        (∃ path why, files.resolve path = .error why ∧ failure = .unresolvable why) ∨
        ∃ text why, Looked engine around edit text ∧ Text.characters text = .error why ∧
          failure = .textUnencodable why) ∧
    (∀ failure, reply.answer = .error failure ↔
      FailsAtOnce engine around edit failure ∨ FailsLate Weight engine around clock edit failure) ∧
    (∀ failure, FailsLate Weight engine around clock edit failure →
      (∃ path why, files.resolve path = .error why ∧ failure = .unresolvable why) ∨
        ∃ place current origin outcome why,
          Compares engine around edit place current origin outcome ∧
          Text.characters outcome.baseline.text = .error why ∧ failure = .textUnencodable why) ∧
    ((∃ failure, FailsAtOnce engine around edit failure) ∨
        (∃ place reason origin, engine.placeOf files edit.path = .ok place ∧
          Rejected scan files place.file edit.buffer reason origin) →
      reply.engine = engine ∧ reply.questions = []) := by
  intro files scan reply
  refine ⟨?unreadable, ?mode, ?limit, fun failure => failure_cause,
    fun failure => answer_eq_error_iff, fun failure => late_cause, ?untouched⟩
  case unreadable =>
    intro name
    rw [error_iff_at_once (by simp) (by simp)]
    exact unreadable_at_once_iff
  case mode =>
    intro name
    rw [error_iff_at_once (by simp) (by simp)]
    exact mode_at_once_iff
  case limit =>
    intro why
    rw [error_iff_at_once (by simp) (by simp)]
    exact limit_at_once_iff
  case untouched =>
    rintro (⟨failure, fails⟩ | ⟨place, reason, origin, found, turned⟩)
    · simp only [reply, analyze_of_fails_at_once fails, and_self]
    · simp only [reply, analyze_of_rejected found turned, and_self]

/-- A limit of 1e308 megabytes is finite and positive, but not as a number of bytes, so the analysis
of any buffer fails. -/
theorem huge_limit_overflows :
    let engine : Engine :=
      { tools := plainTools, root := ⟨.slash, ["proj"]⟩
        settings := { scan := { sizeLimit := 1e308 } } }
    let edit : Edit :=
      { path := ⟨.relative, ["a.ts"]⟩, buffer := some (Text.given "const a = 1;\n".toList) }
    engine.settings.scan.sizeLimit.isFinite = true ∧ 0 < engine.settings.scan.sizeLimit ∧
      (engine.analyze ⟨unreadableFiles, none⟩ (.steady 0) edit :
        Reply (Except Failure (Analysis Float))).answer = .error (.limitUncountable .infinite) := by
  intro engine edit
  have infinite : Uncountable.ofFloat engine.settings.scan.sizeLimit = .infinite := by
    decide +kernel
  refine ⟨by decide +kernel, by decide +kernel, ?_⟩
  rw [← infinite]
  refine answer_eq_error_iff.mpr (.inl (.unmeasurable ⟨⟨.slash, ["proj", "a.ts"]⟩, "a.ts"⟩ rfl ?_))
  exact .text _ _ (by decide +kernel) ⟨by decide, nofun⟩ rfl (by decide)

end EditImpact.Engine
