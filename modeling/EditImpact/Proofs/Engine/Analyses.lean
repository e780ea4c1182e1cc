import EditImpact.Proofs.Baseline.Snapshots
import EditImpact.Proofs.Engine.Guards
import EditImpact.Proofs.Impact.Walks

/-!
# What an analysis comes to

An analysis fails at once, or a guard turns the file away, or its text is compared with a baseline.
The first two leave the engine as it was. `Compares` says when the third takes place and
`analyze_of_compares` all that it does, so that no later proof goes through the guards again.
-/

namespace EditImpact.Engine

open Baseline Files.Timed

set_option autoImplicit false

variable {Weight : Type}

/-- A guard turned the file away before its baseline was looked for. -/
def Analysis.TurnedAway (analysis : Analysis Weight) : Prop :=
  analysis.baseline.reason = some .binaryFile ∨ analysis.baseline.reason = some .fileTooLarge

theorem request_of_ok {settings : Settings.Baseline} {path : Path} {current : List Char}
    {mode target : Option String} {request : Request}
    (made : requestOf settings path current mode target = .ok request) :
    request.path = path ∧ request.current = current := by
  unfold requestOf at made
  cases mode with
  | none =>
      cases made
      exact ⟨rfl, rfl⟩
  | some name =>
      dsimp only at made
      split at made
      · cases made
        exact ⟨rfl, rfl⟩
      · split at made
        · cases made
          exact ⟨rfl, rfl⟩
        · cases made

section Judging

variable {engine : Engine} {files : Files.FileSystem} {edit : Edit} {place : Place}
  {judgement : Verdict} {failure : Failure}

theorem place_of_eq_ok_iff {path : Path} :
    engine.placeOf files path = .ok place ↔
      engine.absolute files path = .ok place.file ∧
        Impact.shownFrom files engine.root place.file = .ok place.shown := by
  unfold placeOf
  cases engine.absolute files path with
  | error failure => exact ⟨nofun, fun found => nomatch found.1⟩
  | ok file =>
      constructor
      · intro found
        cases shown : Impact.shownFrom files engine.root file with
        | error failure =>
            simp only [shown, bind, Except.bind] at found
            cases found
        | ok text =>
            simp only [shown, bind, Except.bind] at found
            cases found
            exact ⟨rfl, shown⟩
      · rintro ⟨⟨⟩, shown⟩
        simp only [shown, bind, Except.bind]
        rfl

theorem judged_of_place (found : engine.placeOf files edit.path = .ok place) :
    engine.judged files edit =
      (verdict engine.settings.scan files place.file edit.buffer).map (place, ·) := by
  rw [judged, found]
  change (verdict engine.settings.scan files place.file edit.buffer >>= fun judgement =>
    pure (place, judgement)) = _
  cases verdict engine.settings.scan files place.file edit.buffer <;> rfl

theorem judged_of_no_place (lost : engine.placeOf files edit.path = .error failure) :
    engine.judged files edit = .error failure := by
  rw [judged, lost]
  rfl

theorem judged_eq_ok_iff :
    engine.judged files edit = .ok (place, judgement) ↔
      engine.placeOf files edit.path = .ok place ∧
        verdict engine.settings.scan files place.file edit.buffer = .ok judgement := by
  cases found : engine.placeOf files edit.path with
  | error failure =>
      rw [judged_of_no_place found]
      exact ⟨nofun, fun answered => nomatch answered.1⟩
  | ok other =>
      rw [judged_of_place found]
      constructor
      · intro answered
        cases said : verdict engine.settings.scan files other.file edit.buffer with
        | error failure =>
            rw [said] at answered
            cases answered
        | ok known =>
            rw [said] at answered
            cases answered
            exact ⟨rfl, said⟩
      · rintro ⟨⟨⟩, said⟩
        rw [said]
        rfl

end Judging

/-- The text of a file passes the guards, and the search for its baseline comes to an outcome. -/
structure Compares (engine : Engine) (around : Surroundings) (edit : Edit) (place : Place)
    (current : List Char) (origin : Origin) (outcome : Outcome) : Prop where
  found : engine.placeOf around.files edit.path = .ok place
  admitted : Admitted engine.settings.scan around.files place.file edit.buffer current origin
  resolved : ∃ request,
    requestOf engine.settings.baseline place.file current edit.mode edit.target = .ok request ∧
      resolve engine.settings.baseline around engine.caches request = outcome

theorem Compares.judged {engine : Engine} {around : Surroundings} {edit : Edit} {place : Place}
    {current : List Char} {origin : Origin} {outcome : Outcome}
    (compares : Compares engine around edit place current origin outcome) :
    engine.judged around.files edit = .ok (place, .admitted current origin) :=
  judged_eq_ok_iff.mpr
    ⟨compares.found, verdict_of_judged (.admitted current origin compares.admitted)⟩

/-- A call is compared in one way at most. -/
theorem Compares.unique {engine : Engine} {around : Surroundings} {edit : Edit}
    {place other : Place} {current text : List Char} {origin source : Origin}
    {outcome result : Outcome} (one : Compares engine around edit place current origin outcome)
    (two : Compares engine around edit other text source result) :
    place = other ∧ current = text ∧ origin = source ∧ outcome = result := by
  have same := one.judged.symm.trans two.judged
  obtain ⟨-, -, request, made, rfl⟩ := one
  obtain ⟨-, -, again, remade, rfl⟩ := two
  cases same
  rw [made] at remade
  cases remade
  exact ⟨rfl, rfl, rfl, rfl⟩

variable [Scoring.Weighing Weight]

theorem rejected_turned_away {scan : Settings.Scan} {files : Files.FileSystem} {path : Path}
    {buffer : Option Text.Given} {reason : Reason} {origin : Option Origin} (shown : String)
    (turned : Rejected scan files path buffer reason origin) :
    (rejected shown reason origin : Analysis Weight).TurnedAway := by
  cases turned with
  | binaryName => exact .inl rfl
  | largeFile => exact .inr rfl
  | binaryText => exact .inl rfl
  | largeText => exact .inr rfl

section Analyzing

variable {engine : Engine} {around : Surroundings} {clock : Files.Clock} {edit : Edit}
  {place : Place}

/-- An analysis of a file that is turned away says so. -/
theorem analyze_of_rejected (found : engine.placeOf around.files edit.path = .ok place)
    {reason : Reason} {origin : Option Origin}
    (turned : Rejected engine.settings.scan around.files place.file edit.buffer reason origin) :
    (engine.analyze around clock edit : Reply (Except Failure (Analysis Weight))) =
      ⟨.ok (rejected place.shown reason origin), engine, [], false, clock⟩ := by
  rw [analyze, judged_eq_ok_iff.mpr ⟨found, verdict_of_rejected turned⟩]

theorem analyze_of_not_judged {failure : Failure}
    (failed : engine.judged around.files edit = .error failure) :
    (engine.analyze around clock edit : Reply (Except Failure (Analysis Weight))) =
      ⟨.error failure, engine, [], false, clock⟩ := by
  rw [analyze, failed]

section Admitted

variable {current : List Char} {origin : Origin}
  (found : engine.placeOf around.files edit.path = .ok place)
  (admitted : Admitted engine.settings.scan around.files place.file edit.buffer current origin)

include found admitted

theorem analyze_of_admitted :
    (engine.analyze around clock edit : Reply (Except Failure (Analysis Weight))) =
      engine.analyzeText around clock place edit current origin := by
  have passed := verdict_of_judged (.admitted current origin admitted)
  rw [analyze, judged_eq_ok_iff.mpr ⟨found, passed⟩]

theorem analyze_of_no_request {failure : Failure}
    (unmade : requestOf engine.settings.baseline place.file current edit.mode edit.target =
      .error failure) :
    (engine.analyze around clock edit : Reply (Except Failure (Analysis Weight))) =
      ⟨.error failure, engine, [], false, clock⟩ := by
  rw [analyze_of_admitted found admitted, analyzeText, unmade]

end Admitted

theorem analyze_of_compares {current : List Char} {origin : Origin} {outcome : Outcome}
    (compares : Compares engine around edit place current origin outcome)
    {answer : Except Failure (Analysis Weight)} {stopped : Bool} {later : Files.Clock}
    (ran : (engine.against around.files place edit current origin outcome.baseline).run clock =
      ⟨answer, stopped, later⟩) :
    engine.analyze around clock edit =
      ⟨answer,
        { engine with
          caches := remembered engine.settings.baseline place.file current outcome answer },
        outcome.questions, stopped, later⟩ := by
  obtain ⟨found, admitted, request, made, rfl⟩ := compares
  simp only [analyze_of_admitted found admitted, analyzeText, made, ran]

theorem Compares.of_made {current : List Char} {origin : Origin}
    (found : engine.placeOf around.files edit.path = .ok place)
    (admitted : Admitted engine.settings.scan around.files place.file edit.buffer current origin)
    {request : Request}
    (made : requestOf engine.settings.baseline place.file current edit.mode edit.target =
      .ok request) :
    Compares engine around edit place current origin
      (resolve engine.settings.baseline around engine.caches request) :=
  ⟨found, admitted, request, made, rfl⟩

variable {reply : Reply (Except Failure (Analysis Weight))}

/-- The ways in which an analysis can end, each with its condition: its file cannot be found or
judged, a guard turns the file away, the mode is not known, or the text is compared with the
baseline that was resolved. -/
inductive Ends (engine : Engine) (around : Surroundings) (clock : Files.Clock) (edit : Edit) :
    Reply (Except Failure (Analysis Weight)) → Prop where
  | failed (failure : Failure) (unjudged : engine.judged around.files edit = .error failure) :
    Ends engine around clock edit ⟨.error failure, engine, [], false, clock⟩
  | turnedAway (place : Place) (reason : Reason) (origin : Option Origin)
    (found : engine.placeOf around.files edit.path = .ok place)
    (turned : Rejected engine.settings.scan around.files place.file edit.buffer reason origin) :
    Ends engine around clock edit
      ⟨.ok (rejected place.shown reason origin), engine, [], false, clock⟩
  | unmade (place : Place) (current : List Char) (origin : Origin) (failure : Failure)
    (found : engine.placeOf around.files edit.path = .ok place)
    (admitted : Admitted engine.settings.scan around.files place.file edit.buffer current origin)
    (unmade : requestOf engine.settings.baseline place.file current edit.mode edit.target =
      .error failure) :
    Ends engine around clock edit ⟨.error failure, engine, [], false, clock⟩
  | compared (place : Place) (current : List Char) (origin : Origin) (outcome : Outcome)
    (answer : Except Failure (Analysis Weight)) (stopped : Bool) (later : Files.Clock)
    (compares : Compares engine around edit place current origin outcome)
    (ran : (engine.against around.files place edit current origin outcome.baseline).run clock =
      ⟨answer, stopped, later⟩) :
    Ends engine around clock edit
      ⟨answer,
        { engine with
          caches := remembered engine.settings.baseline place.file current outcome answer },
        outcome.questions, stopped, later⟩

theorem analyze_ends (replied : engine.analyze around clock edit = reply) :
    Ends engine around clock edit reply := by
  subst replied
  cases judgement : engine.judged around.files edit with
  | error failure =>
      rw [analyze_of_not_judged judgement]
      exact .failed failure judgement
  | ok judged =>
      obtain ⟨place, judgement⟩ := judged
      obtain ⟨found, said⟩ := judged_eq_ok_iff.mp ‹_›
      cases verdict_eq_iff.mp said with
      | turnedAway reason origin turned =>
          rw [analyze_of_rejected found turned]
          exact .turnedAway place reason origin found turned
      | admitted current origin admitted =>
          cases made : requestOf engine.settings.baseline place.file current edit.mode
              edit.target with
          | error failure =>
              rw [analyze_of_no_request found admitted made]
              exact .unmade place current origin failure found admitted made
          | ok request =>
              have compares := Compares.of_made found admitted made
              rw [analyze_of_compares compares rfl]
              exact .compared place current origin _ _ _ _ compares rfl

/-- An analysis changes nothing but what is remembered. -/
theorem analyze_engine (replied : engine.analyze around clock edit = reply) :
    reply.engine = { engine with caches := reply.engine.caches } := by
  cases analyze_ends replied <;> rfl

end Analyzing

/-! ## The answer of a comparison -/

section Answers

variable {engine : Engine} {files : Files.FileSystem} {place : Place} {edit : Edit}
  {current : List Char} {origin : Origin} {baseline : Resolved} {clock : Files.Clock}

theorem is_idle_iff :
    baseline.isIdle current = true ↔
      baseline.isEmpty = true ∨ baseline.text = Text.given current := by
  simp [Resolved.isIdle]

theorem against_idle (idle : baseline.isIdle current = true) :
    (engine.against files place edit current origin baseline : Files.Timed (Analysis Weight)) =
      pure (unchanged place.shown current baseline.resolution origin) := by
  rw [against, if_pos idle]

theorem against_compared (differ : baseline.isIdle current = false) :
    (engine.against files place edit current origin baseline : Files.Timed (Analysis Weight)) =
      engine.compared files place edit current origin baseline := by
  rw [against, differ]
  rfl

end Answers

/-! ## What holds of comparisons -/

section Comparing

variable (engine : Engine) {files : Files.FileSystem}
  (property : Impact.Stepwise files engine.settings.scan) (place : Place) (edit : Edit)
  (current : List Char) (origin : Origin)

theorem encodable_eq_error_iff {text : Text.Given} {failure : Failure} :
    encodable text = .error failure ↔
      ∃ why, Text.characters text = .error why ∧ failure = .textUnencodable why := by
  rw [encodable]
  cases Text.characters text with
  | ok chars => simp [Except.mapError]
  | error why =>
      constructor
      · rintro ⟨⟩
        exact ⟨why, rfl, rfl⟩
      · rintro ⟨_, ⟨⟩, rfl⟩
        rfl

theorem encodable_eq_ok_iff {text : Text.Given} {chars : List Char} :
    encodable text = .ok chars ↔ text = Text.given chars := by
  rw [← Text.characters_eq_ok_iff, encodable]
  cases Text.characters text with
  | ok known => simp [Except.mapError]
  | error why => simp [Except.mapError]

theorem report_on_holds (changes : ChangeSet) :
    property.Holds (engine.reportOn files place changes) := by
  unfold reportOn
  split
  · exact property.done _
  · exact property.report place.file engine.root changes

theorem scoring_context_holds (context : Scoring.Context) :
    property.Holds (engine.scoringContext files place context) := by
  unfold scoringContext
  dsimp only
  split
  · exact property.done _
  · exact property.bind (property.nearby_tests place.file) fun tests => property.done _

variable (baseline : Resolved)

variable (Weight) in
/-- A property of all steps is one of a comparison; the bytes of the baseline are its first step. -/
theorem against_holds
    (texts : baseline.isIdle current = false → ∀ why, Text.characters baseline.text = .error why →
      property.Foreseen (.textUnencodable why)) :
    property.Holds (engine.against files place edit current origin baseline :
      Files.Timed (Analysis Weight)) := by
  cases idle : baseline.isIdle current with
  | true =>
      rw [against_idle idle]
      exact property.done _
  | false =>
      rw [against_compared idle, compared]
      refine property.bind (property.told _ ?_) fun before => ?_
      · intro failure failed
        obtain ⟨why, stuck, rfl⟩ := encodable_eq_error_iff.mp failed
        exact texts idle why stuck
      · exact property.bind (report_on_holds engine property place _) fun report =>
          property.bind (scoring_context_holds engine property place _) fun context =>
            property.done _

theorem against_steady :
    (engine.against files place edit current origin baseline :
      Files.Timed (Analysis Weight)).Steady :=
  engine.against_holds Weight (.steady files _) place edit current origin baseline
    fun _ _ _ => trivial

/-- Where all paths lead somewhere and the size limit is a number of bytes, a comparison with a
baseline that has bytes succeeds. -/
theorem against_answers {before : List Char}
    (everywhere : ∀ path, ∃ real, files.resolve path = .ok real)
    (counted : engine.settings.scan.byteLimit ≠ none)
    (whole : baseline.text = Text.given before) (clock : Files.Clock) :
    ∃ analysis : Analysis Weight,
      ((engine.against files place edit current origin baseline).run clock).answer =
        .ok analysis := by
  have covers (failure : Failure)
      (obstacle : Impact.Obstacle files engine.settings.scan failure) : False := by
    cases obstacle with
    | lost path why lost =>
        obtain ⟨real, leads⟩ := everywhere path
        rw [lost] at leads
        cases leads
    | uncountable noLimit => exact counted noLimit
  have never := engine.against_holds Weight (.fails files _ (fun _ => False) covers) place edit
    current origin baseline fun _ why stuck => by
      rw [whole, Text.characters_given] at stuck
      cases stuck
  cases answer : ((engine.against files place edit current origin baseline :
      Files.Timed (Analysis Weight)).run clock).answer with
  | ok analysis => exact ⟨analysis, rfl⟩
  | error failure => exact absurd (never clock failure answer) id

/-- A search for tests that fails is the end of a comparison that takes it. -/
theorem against_stuck {before : List Char} {time : Float}
    (patient : ¬time + engine.settings.scan.timeout < time)
    (differ : baseline.isIdle current = false) (whole : baseline.text = Text.given before)
    (moved : (Lines.delta engine.tools.patch before current).isEmpty = false)
    (outside : Files.mentionsTests place.shown = false)
    (stuck : ∃ failure, ((Impact.nearbyTests files engine.settings.scan place.file).run
      ⟨fun _ => time⟩).answer = .error failure) :
    ∃ failure, ((engine.against files place edit current origin baseline :
      Files.Timed (Analysis Weight)).run ⟨fun _ => time⟩).answer = .error failure := by
  obtain ⟨failure, failed⟩ := stuck
  rcases searched : (Impact.nearbyTests files engine.settings.scan place.file).run
    ⟨fun _ => time⟩ with ⟨answer, stopped, later⟩
  rw [searched] at failed
  cases failed
  rw [against_compared differ, compared, encodable_eq_ok_iff.mpr whole, lift_eq_told,
    told_ok_bind]
  have reported := report_on_holds engine (.still files patient) place
    (.betweenWith engine.tools.collect before current (Files.languageOf place.file))
  refine reported.bind_fails fun report => ⟨failure, ?_⟩
  have context : (engine.scoringContext files place
      { path := place.shown, current := current, delta := Lines.delta engine.tools.patch before current
        prior := some before, diagnostics := edit.diagnostics
        language := Files.languageOf place.file }).run ⟨fun _ => time⟩ =
        ⟨.error failure, stopped, later⟩ := by
    unfold scoringContext
    simp only [moved, outside, Bool.or_false, Bool.false_eq_true, if_false]
    exact run_bind_error searched
  exact congrArg Files.Lapse.answer (run_bind_error context)

/-- At a clock that stands still, no analysis is stopped. -/
theorem analyze_still {around : Surroundings} {time : Float}
    (patient : ¬time + engine.settings.scan.timeout < time)
    {reply : Reply (Except Failure (Analysis Weight))}
    (replied : engine.analyze around ⟨fun _ => time⟩ edit = reply) : reply.stopped = false := by
  cases analyze_ends replied with
  | failed | turnedAway | unmade => rfl
  | compared place current origin outcome answer stopped later compares ran =>
      have still := engine.against_holds Weight (.still around.files patient) place edit current
        origin outcome.baseline fun _ _ _ => trivial
      exact (congrArg Files.Lapse.stopped ran).symm.trans still.inTime

end Comparing

/-- A comparison says where its baseline comes from. -/
theorem against_gives_baseline (engine : Engine) (files : Files.FileSystem) (place : Place)
    (edit : Edit) (current : List Char) (origin : Origin) (baseline : Resolved) :
    Gives (fun analysis => analysis.baseline = baseline.resolution)
      (engine.against files place edit current origin baseline :
        Files.Timed (Analysis Weight)) := by
  cases idle : baseline.isIdle current with
  | true =>
      rw [against_idle idle]
      exact gives_pure rfl
  | false =>
      rw [against_compared idle, compared]
      exact (gives_any _).bind fun before _ => (gives_any _).bind fun report _ =>
        (gives_any _).bind fun context _ => gives_pure rfl

end EditImpact.Engine
