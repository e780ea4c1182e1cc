import EditImpact.Proofs.Baseline.Snapshots
import EditImpact.Proofs.Engine.Calls

/-!
# The snapshot of a file is its last setting

Snapshots are written in several places: a resolution takes over the text on disk or the current
one, an analysis moves the snapshot on, and updates and clearings change it from outside. An
analysis that fails after its resolution leaves what the resolution wrote.
`Concludes` says what one analysis may come to; with it, one call follows its event
(`perform_follows`), and a run leaves for each path what its last setting event says.
-/

namespace EditImpact.Engine

open Baseline

set_option autoImplicit false

variable {Weight : Type}

/-- An analysis breaks off: its file has no snapshot, the text on disk is taken for one, and then the
comparison fails. -/
structure BreaksOff (Weight : Type) [Scoring.Weighing Weight] (engine : Engine)
    (around : Surroundings) (clock : Files.Clock) (edit : Edit) (place : Place)
    (text : List Char) : Prop where
  missing : engine.caches.snapshots.get? place.file.toString = none
  read : around.files.read place.file = .ok text
  failed : ∃ current origin outcome failure,
    Compares engine around edit place current origin outcome ∧
      outcome.baseline.resolution.kind.isVersioned = false ∧
      ((engine.against around.files place edit current origin outcome.baseline :
        Files.Timed (Analysis Weight)).run clock).answer = .error failure

theorem remembered_refs (settings : Settings.Baseline) (file : Path) (current : List Char)
    (outcome : Outcome) (answer : Except Failure (Analysis Weight)) :
    (remembered settings file current outcome answer).refs = outcome.caches.refs := by
  cases answer with
  | ok analysis => exact recorded_refs settings file current outcome
  | error failure => rfl

section Concluding

variable [Scoring.Weighing Weight]

/-- The answer of an analysis and the snapshots it leaves, where snapshots are kept. -/
inductive Concludes (engine : Engine) (around : Surroundings) (clock : Files.Clock) (edit : Edit) :
    Except Failure (Analysis Weight) → Snapshots → Prop where
  | failed (failure : Failure)
    (whole : ∀ place text, ¬BreaksOff Weight engine around clock edit place text) :
    Concludes engine around clock edit (.error failure) engine.caches.snapshots
  | brokenOff (failure : Failure) (place : Place) (text : List Char)
    (broken : BreaksOff Weight engine around clock edit place text) :
    Concludes engine around clock edit (.error failure)
      (engine.caches.snapshots.put place.file.toString (Text.given text))
  | turnedAway (analysis : Analysis Weight) (turned : analysis.TurnedAway) :
    Concludes engine around clock edit (.ok analysis) engine.caches.snapshots
  | versioned (analysis : Analysis Weight) (kind : analysis.baseline.kind.isVersioned = true) :
    Concludes engine around clock edit (.ok analysis) engine.caches.snapshots
  | carriedOut (place : Place) (current : List Char) (origin : Origin)
    (analysis : Analysis Weight) (after : Snapshots)
    (found : engine.placeOf around.files edit.path = .ok place)
    (taken : currentText around.files place.file edit.buffer = .ok (Text.given current, origin))
    (carried : ¬analysis.TurnedAway) (kind : analysis.baseline.kind.isVersioned = false)
    (stored : ∀ name, after.get? name =
      if name = place.file.toString then some (Text.given current)
      else engine.caches.snapshots.get? name)
    (against : ∀ old, engine.caches.snapshots.get? place.file.toString = some old →
      ((engine.against around.files place edit current origin
        ⟨old, analysis.baseline, false⟩).run clock).answer = .ok analysis) :
    Concludes engine around clock edit (.ok analysis) after

variable {engine : Engine} {around : Surroundings} {clock : Files.Clock} {edit : Edit}
  {place : Place} {current : List Char} {origin : Origin} {outcome : Outcome}

theorem compares_settles (keeps : engine.settings.baseline.keepSnapshots = true)
    (versioned : AllVersioned engine.caches.refs)
    (compares : Compares engine around edit place current origin outcome) :
    ∃ request, request.path = place.file ∧ request.current = current ∧
      Settles around.files engine.caches.snapshots request outcome.baseline
        outcome.caches.snapshots := by
  obtain ⟨request, made, rfl⟩ := compares.resolved
  obtain ⟨path, text⟩ := request_of_ok made
  exact ⟨request, path, text, resolve_settles keeps versioned⟩

theorem BreaksOff.unique {other : Place} {text content : List Char}
    (one : BreaksOff Weight engine around clock edit place text)
    (two : BreaksOff Weight engine around clock edit other content) :
    place = other ∧ text = content := by
  obtain ⟨_, _, _, _, compares, -⟩ := one.failed
  obtain ⟨_, _, _, _, again, -⟩ := two.failed
  obtain ⟨rfl, -⟩ := compares.unique again
  cases one.read.symm.trans two.read
  exact ⟨rfl, rfl⟩

/-- A comparison that fails has left behind what its resolution took. -/
theorem failed_comparison_concludes (keeps : engine.settings.baseline.keepSnapshots = true)
    (versioned : AllVersioned engine.caches.refs)
    (compares : Compares engine around edit place current origin outcome) {failure : Failure}
    (failed : ((engine.against around.files place edit current origin outcome.baseline :
      Files.Timed (Analysis Weight)).run clock).answer = .error failure) :
    Concludes engine around clock edit (.error failure : Except Failure (Analysis Weight))
      outcome.caches.snapshots := by
  obtain ⟨request, path, text, settled⟩ := compares_settles keeps versioned compares
  cases settled with
  | versioned kind left =>
      rw [left]
      refine .failed failure fun _ _ broken => ?_
      obtain ⟨_, _, _, _, others, unversioned, -⟩ := broken.failed
      obtain ⟨-, -, -, rfl⟩ := compares.unique others
      rw [kind] at unversioned
      cases unversioned
  | existing skip old held taken left =>
      rw [left]
      refine .failed failure fun _ _ broken => ?_
      obtain ⟨_, _, _, _, others, -, -⟩ := broken.failed
      obtain ⟨rfl, -, -, -⟩ := compares.unique others
      have missing := broken.missing
      rw [← path, held] at missing
      cases missing
  | disk skip content missing read taken left =>
      rw [left, path]
      rw [path] at missing read
      exact .brokenOff failure place content
        ⟨missing, read, current, origin, outcome, failure, compares, by rw [taken]; rfl, failed⟩
  | itself problem missing read taken left =>
      -- A text that is its own baseline is not compared with anything.
      have idle : outcome.baseline.isIdle current = true := is_idle_iff.mpr (.inl (by rw [taken]))
      rw [against_idle idle] at failed
      cases failed

theorem comparison_concludes (keeps : engine.settings.baseline.keepSnapshots = true)
    (versioned : AllVersioned engine.caches.refs)
    (compares : Compares engine around edit place current origin outcome)
    {analysis : Analysis Weight}
    (answered : ((engine.against around.files place edit current origin outcome.baseline).run
      clock).answer = .ok analysis) :
    Concludes engine around clock edit (.ok analysis)
      (recorded engine.settings.baseline place.file current outcome).snapshots := by
  obtain ⟨request, path, text, settled⟩ := compares_settles keeps versioned compares
  have named : analysis.baseline = outcome.baseline.resolution :=
    against_gives_baseline engine around.files place edit current origin outcome.baseline clock
      analysis answered
  cases kind : outcome.baseline.resolution.kind.isVersioned with
  | true =>
      rw [recorded_of_versioned _ _ kind, settled.left_of_versioned kind]
      apply Concludes.versioned
      rw [named]
      exact kind
  | false =>
      apply Concludes.carriedOut place current origin _ _ compares.found compares.admitted.taken
      · unfold Analysis.TurnedAway
        rw [named, not_or]
        exact settled.reason_ne kind
      · rw [named]
        exact kind
      · have stored := get_recorded keeps settled kind
        rwa [path, text] at stored
      · intro old held
        rw [← path] at held
        rw [named, ← settled.eq_existing kind held]
        exact answered

theorem analyze_concludes (keeps : engine.settings.baseline.keepSnapshots = true)
    (versioned : AllVersioned engine.caches.refs)
    {reply : Reply (Except Failure (Analysis Weight))}
    (replied : engine.analyze around clock edit = reply) :
    Concludes engine around clock edit reply.answer reply.engine.caches.snapshots := by
  cases analyze_ends replied with
  | failed failure unjudged =>
      refine .failed failure fun _ _ broken => ?_
      obtain ⟨_, _, _, _, compares, -⟩ := broken.failed
      rw [compares.judged] at unjudged
      cases unjudged
  | turnedAway place reason origin found turned =>
      exact .turnedAway _ (rejected_turned_away place.shown turned)
  | unmade place current origin failure found admitted unmade =>
      refine .failed failure fun _ _ broken => ?_
      obtain ⟨_, _, _, _, compares, -⟩ := broken.failed
      have passed := verdict_of_judged (.admitted current origin admitted)
      cases compares.judged.symm.trans (judged_eq_ok_iff.mpr ⟨found, passed⟩)
      obtain ⟨request, made, -⟩ := compares.resolved
      rw [unmade] at made
      cases made
  | compared place current origin outcome answer stopped later compares ran =>
      have answered := congrArg Files.Lapse.answer ran
      cases answer with
      | error failure => exact failed_comparison_concludes keeps versioned compares answered
      | ok analysis => exact comparison_concludes keeps versioned compares answered

/-- An analysis that breaks off fails, and the text on disk is the snapshot of its file from then
on. -/
theorem BreaksOff.replied (keeps : engine.settings.baseline.keepSnapshots = true)
    (versioned : AllVersioned engine.caches.refs) {text : List Char}
    (broken : BreaksOff Weight engine around clock edit place text)
    {reply : Reply (Except Failure (Analysis Weight))}
    (replied : engine.analyze around clock edit = reply) :
    (∃ failure, reply.answer = .error failure) ∧
      reply.engine.caches.snapshots.get? place.file.toString = some (Text.given text) := by
  have failed : ∃ failure, reply.answer = .error failure := by
    obtain ⟨current, origin, outcome, failure, compares, -, stuck⟩ := broken.failed
    refine ⟨failure, ?_⟩
    rw [← replied, analyze_of_compares compares rfl]
    exact stuck
  refine ⟨failed, ?_⟩
  have concluded := analyze_concludes keeps versioned replied
  obtain ⟨failure, failed⟩ := failed
  rw [failed] at concluded
  generalize reply.engine.caches.snapshots = after at concluded ⊢
  cases concluded with
  | failed _ whole => exact absurd broken (whole place text)
  | brokenOff _ other content again =>
      obtain ⟨rfl, rfl⟩ := broken.unique again
      exact (Store.get_put _ _ _ _).trans (if_pos rfl)

theorem analyze_versioned (versioned : AllVersioned engine.caches.refs)
    {reply : Reply (Except Failure (Analysis Weight))}
    (replied : engine.analyze around clock edit = reply) :
    AllVersioned reply.engine.caches.refs := by
  cases analyze_ends replied with
  | failed | turnedAway | unmade => exact versioned
  | compared place current origin outcome answer stopped later compares ran =>
      obtain ⟨request, -, rfl⟩ := compares.resolved
      dsimp only
      rw [remembered_refs]
      exact resolve_versioned versioned

namespace Concludes

variable {after : Snapshots}

theorem against_existing {analysis : Analysis Weight} {old : Text.Given}
    (concluded : Concludes engine around clock edit (.ok analysis) after)
    (found : engine.placeOf around.files edit.path = .ok place) (carried : ¬analysis.TurnedAway)
    (kind : analysis.baseline.kind.isVersioned = false)
    (held : engine.caches.snapshots.get? place.file.toString = some old) :
    ∃ current origin,
      currentText around.files place.file edit.buffer = .ok (Text.given current, origin) ∧
      ((engine.against around.files place edit current origin
        ⟨old, analysis.baseline, false⟩).run clock).answer = .ok analysis := by
  cases concluded with
  | turnedAway _ turned => exact absurd turned carried
  | versioned _ known =>
      rw [known] at kind
      cases kind
  | carriedOut other current origin _ _ there taken _ _ stored against =>
      rw [found] at there
      cases there
      exact ⟨current, origin, taken, against old held⟩

theorem left_alone {answer : Except Failure (Analysis Weight)}
    (concluded : Concludes engine around clock edit answer after)
    (spared : (∃ failure, answer = .error failure ∧
        ∀ place text, ¬BreaksOff Weight engine around clock edit place text) ∨
      ∃ analysis, answer = .ok analysis ∧
        (analysis.TurnedAway ∨ analysis.baseline.kind.isVersioned = true)) :
    after = engine.caches.snapshots := by
  cases concluded with
  | failed failure whole => rfl
  | brokenOff failure place text broken =>
      rcases spared with ⟨_, -, whole⟩ | ⟨other, same, -⟩
      · exact absurd broken (whole place text)
      · cases same
  | turnedAway analysis turned => rfl
  | versioned analysis kind => rfl
  | carriedOut place current origin analysis after found taken carried kind stored against =>
      rcases spared with ⟨failure, failed, -⟩ | ⟨other, same, turned | known⟩
      · cases failed
      · cases same
        exact absurd turned carried
      · cases same
        rw [known] at kind
        cases kind

end Concludes

end Concluding

/-! ## Events -/

namespace Event

variable [Scoring.Weighing Weight]

/-- An event sets the snapshot of a path to a text: an analysis that was carried out without version
control to the text that it looked at, one that broke off to the text on disk, an update to the text
supplied, and a seeding that took place to the one on disk. -/
inductive Sets (path : String) (text : Text.Given) : Event Weight → Prop where
  | analysed (engine : Engine) (around : Surroundings) (clock : Files.Clock) (edit : Edit)
    (analysis : Analysis Weight) (place : Place) (origin : Origin)
    (found : engine.placeOf around.files edit.path = .ok place)
    (named : place.file.toString = path) (carried : ¬analysis.TurnedAway)
    (kind : analysis.baseline.kind.isVersioned = false)
    (taken : currentText around.files place.file edit.buffer = .ok (text, origin)) :
    Sets path text ⟨engine, .analyze around clock edit, .analysis (.ok analysis)⟩
  | brokenOff (engine : Engine) (around : Surroundings) (clock : Files.Clock) (edit : Edit)
    (failure : Failure) (place : Place) (content : List Char)
    (broken : BreaksOff Weight engine around clock edit place content)
    (named : place.file.toString = path) (same : text = Text.given content) :
    Sets path text ⟨engine, .analyze around clock edit, .analysis (.error failure)⟩
  | updated (engine : Engine) (files : Files.FileSystem) (place file : Path)
    (given : Option Text.Given) (found : engine.absolute files place = .ok file)
    (named : file.toString = path) (supplied : Supplied files file given text) :
    Sets path text ⟨engine, .update files place given, .said (.ok true)⟩
  | seeded (engine : Engine) (files : Files.FileSystem) (place file : Path)
    (found : engine.absolute files place = .ok file) (named : file.toString = path)
    (supplied : Supplied files file none text) :
    Sets path text ⟨engine, .seed files place, .said (.ok true)⟩

/-- An event forgets the snapshot of a path. -/
inductive Clears (path : String) : Event Weight → Prop where
  | one (engine : Engine) (files : Files.FileSystem) (place file : Path) (answer : Answer Weight)
    (found : engine.absolute files place = .ok file) (named : file.toString = path) :
    Clears path ⟨engine, .clear files place, answer⟩
  | all (engine : Engine) (answer : Answer Weight) : Clears path ⟨engine, .clearAll, answer⟩

/-- An event sets or forgets the snapshot of a path. -/
def Touches (event : Event Weight) (path : String) : Prop :=
  event.Clears path ∨ ∃ text, event.Sets path text

end Event

/-- The last event that concerns a path sets its snapshot to a text. -/
def LastSets [Scoring.Weighing Weight] (events : List (Event Weight)) (path : String)
    (text : Text.Given) : Prop :=
  ∃ before event after, events = before ++ event :: after ∧ event.Sets path text ∧
    ∀ later ∈ after, ¬later.Touches path

section Last

variable [Scoring.Weighing Weight] (path : String) (text : Text.Given)

theorem not_last_sets_nil : ¬LastSets ([] : List (Event Weight)) path text := by
  rintro ⟨before, event, after, split, -⟩
  simp at split

theorem last_sets_cons_iff (event : Event Weight) (rest : List (Event Weight)) :
    LastSets (event :: rest) path text ↔
      LastSets rest path text ∨
        event.Sets path text ∧ ∀ later ∈ rest, ¬later.Touches path := by
  constructor
  · rintro ⟨before, setter, after, split, sets, quiet⟩
    cases before with
    | nil =>
        obtain ⟨rfl, rfl⟩ := List.cons.inj split
        exact .inr ⟨sets, quiet⟩
    | cons first others =>
        obtain ⟨rfl, rfl⟩ := List.cons.inj split
        exact .inl ⟨others, setter, after, rfl, sets, quiet⟩
  · rintro (⟨before, setter, after, rfl, sets, quiet⟩ | ⟨sets, quiet⟩)
    · exact ⟨event :: before, setter, after, rfl, sets, quiet⟩
    · exact ⟨[], event, rest, rfl, sets, quiet⟩

end Last

/-! ## One call -/

/-- Afterwards a path has a snapshot exactly if the event set it, or left it alone. -/
def Event.Follows [Scoring.Weighing Weight] (event : Event Weight) (after : Snapshots) : Prop :=
  ∀ path text, after.get? path = some text ↔
    event.Sets path text ∨
      event.engine.caches.snapshots.get? path = some text ∧ ¬event.Touches path

section Following

variable [Scoring.Weighing Weight] {event : Event Weight} {after : Snapshots}

theorem follows_of_sets (file : String) (held : Text.Given)
    (sets : ∀ path text, event.Sets path text ↔ file = path ∧ held = text)
    (kept : ∀ path, ¬event.Clears path)
    (stored : ∀ path, after.get? path =
      if path = file then some held else event.engine.caches.snapshots.get? path) :
    event.Follows after := by
  intro path text
  rw [stored path]
  by_cases same : path = file
  · subst same
    simp [Event.Touches, sets]
  · simp [Event.Touches, sets, kept, same, Ne.symm same]

theorem follows_of_not_sets (never : ∀ path text, ¬event.Sets path text)
    (cleared : ∀ path, event.Clears path → after.get? path = none)
    (kept : ∀ path, ¬event.Clears path →
      after.get? path = event.engine.caches.snapshots.get? path) :
    event.Follows after := by
  intro path text
  by_cases clears : event.Clears path
  · simp [Event.Touches, never, clears, cleared path clears]
  · simp [Event.Touches, never, clears, kept path clears]

theorem follows_of_idle (never : ∀ path text, ¬event.Sets path text)
    (kept : ∀ path, ¬event.Clears path) : event.Follows event.engine.caches.snapshots :=
  follows_of_not_sets never (fun path clears => absurd clears (kept path)) (fun _ _ => rfl)

end Following

section Performing

variable [Scoring.Weighing Weight] {engine : Engine} {files : Files.FileSystem} {path : Path}

/-- The event of a call to an engine. -/
def eventOf (Weight : Type) [Scoring.Weighing Weight] (engine : Engine) (call : Call) :
    Event Weight :=
  ⟨engine, call, (perform Weight engine call).1⟩

theorem update_follows (given : Option Text.Given) :
    (eventOf Weight engine (.update files path given)).Follows
      (perform Weight engine (.update files path given)).2.caches.snapshots := by
  unfold eventOf
  cases found : engine.absolute files path with
  | error failure =>
      rw [perform_update_lost Weight engine found]
      exact follows_of_idle (by rintro _ _ ⟨⟩) (by rintro _ ⟨⟩)
  | ok file =>
      rcases perform_update_cases Weight engine found given with
        ⟨performed, -⟩ | ⟨text, source, performed⟩
      · rw [performed]
        exact follows_of_idle (by rintro _ _ ⟨⟩) (by rintro _ ⟨⟩)
      · rw [performed]
        apply follows_of_sets file.toString text
        · intro name other
          constructor
          · intro sets
            cases sets with
            | updated _ _ _ known _ there named supplied =>
                rw [found] at there
                cases there
                exact ⟨named, ((source other).mp supplied).symm⟩
          · rintro ⟨named, rfl⟩
            exact .updated engine files path file given found named ((source text).mpr rfl)
        · rintro _ ⟨⟩
        · intro name
          exact Store.get_put _ _ _ _

theorem seed_follows :
    (eventOf Weight engine (.seed files path)).Follows
      (perform Weight engine (.seed files path)).2.caches.snapshots := by
  unfold eventOf
  cases found : engine.absolute files path with
  | error failure =>
      rw [perform_seed_lost Weight engine found]
      exact follows_of_idle (by rintro _ _ ⟨⟩) (by rintro _ ⟨⟩)
  | ok file =>
      rw [perform_seed_found Weight engine found]
      split
      · exact follows_of_idle (by rintro _ _ ⟨⟩) (by rintro _ ⟨⟩)
      · rcases perform_update_cases Weight engine found none with
          ⟨performed, -⟩ | ⟨text, source, performed⟩
        · rw [performed]
          exact follows_of_idle (by rintro _ _ ⟨⟩) (by rintro _ ⟨⟩)
        · rw [performed]
          apply follows_of_sets file.toString text
          · intro name other
            constructor
            · intro sets
              cases sets with
              | seeded _ _ _ known there named supplied =>
                  rw [found] at there
                  cases there
                  exact ⟨named, ((source other).mp supplied).symm⟩
            · rintro ⟨named, rfl⟩
              exact .seeded engine files path file found named ((source text).mpr rfl)
          · rintro _ ⟨⟩
          · intro name
            exact Store.get_put _ _ _ _

theorem clear_follows :
    (eventOf Weight engine (.clear files path)).Follows
      (perform Weight engine (.clear files path)).2.caches.snapshots := by
  unfold eventOf
  cases found : engine.absolute files path with
  | error failure =>
      rw [perform_clear_lost Weight engine found]
      refine follows_of_idle (by rintro _ _ ⟨⟩) fun name clears => ?_
      cases clears with
      | one _ _ _ file _ there =>
          rw [found] at there
          cases there
  | ok file =>
      rw [perform_clear_found Weight engine found]
      have stored (name : String) :
          (engine.cleared file.toString).caches.snapshots.get? name =
            if name = file.toString then none else engine.caches.snapshots.get? name :=
        Store.get_discard _ _ _
      apply follows_of_not_sets
      · rintro _ _ ⟨⟩
      · intro name clears
        cases clears with
        | one _ _ _ known _ there named =>
            rw [found] at there
            cases there
            exact (stored name).trans (if_pos named.symm)
      · intro name different
        have other : name ≠ file.toString := by
          rintro rfl
          exact different (.one engine files path file _ found rfl)
        exact (stored name).trans (if_neg other)

theorem clear_all_follows :
    (eventOf Weight engine .clearAll).Follows
      (perform Weight engine .clearAll).2.caches.snapshots := by
  apply follows_of_not_sets
  · rintro _ _ ⟨⟩
  · exact fun _ _ => rfl
  · intro name kept
    exact absurd (.all engine _) kept

theorem analyze_follows (keeps : engine.settings.baseline.keepSnapshots = true)
    (versioned : AllVersioned engine.caches.refs) (around : Surroundings) (clock : Files.Clock)
    (edit : Edit) :
    (eventOf Weight engine (.analyze around clock edit)).Follows
      (perform Weight engine (.analyze around clock edit)).2.caches.snapshots := by
  simp only [eventOf, perform]
  generalize replied : (engine.analyze around clock edit :
    Reply (Except Failure (Analysis Weight))) = reply
  have concluded := analyze_concludes keeps versioned replied
  generalize reply.answer = answer at concluded ⊢
  generalize reply.engine.caches.snapshots = after at concluded ⊢
  have never (path : String) :
      ¬(⟨engine, .analyze around clock edit, .analysis answer⟩ : Event Weight).Clears path := by
    rintro ⟨⟩
  cases concluded with
  | failed failure whole =>
      refine follows_of_idle (fun path text sets => ?_) never
      cases sets with
      | brokenOff _ _ _ _ _ place content broken => exact whole place content broken
  | brokenOff failure place text broken =>
      apply follows_of_sets place.file.toString (Text.given text) ?_ never
      · intro name
        exact Store.get_put _ _ _ _
      · intro name other
        constructor
        · intro sets
          cases sets with
          | brokenOff _ _ _ _ _ elsewhere content again named same =>
              obtain ⟨rfl, rfl⟩ := broken.unique again
              exact ⟨named, same.symm⟩
        · rintro ⟨named, rfl⟩
          exact .brokenOff engine around clock edit failure place text broken named rfl
  | turnedAway analysis turned =>
      refine follows_of_idle (fun path text sets => ?_) never
      cases sets with
      | analysed _ _ _ _ _ _ _ _ _ carried => exact carried turned
  | versioned analysis kind =>
      refine follows_of_idle (fun path text sets => ?_) never
      cases sets with
      | analysed _ _ _ _ _ _ _ _ _ _ unversioned =>
          rw [kind] at unversioned
          cases unversioned
  | carriedOut place current origin analysis after found taken carried kind stored against =>
      apply follows_of_sets place.file.toString (Text.given current) ?_ never stored
      intro name other
      constructor
      · intro sets
        cases sets with
        | analysed _ _ _ _ _ elsewhere source there named _ _ looked =>
            rw [found] at there
            cases there
            rw [taken] at looked
            cases looked
            exact ⟨named, rfl⟩
      · rintro ⟨named, rfl⟩
        exact .analysed engine around clock edit analysis place origin found named carried kind
          taken

theorem perform_follows (keeps : engine.settings.baseline.keepSnapshots = true)
    (versioned : AllVersioned engine.caches.refs) (call : Call) :
    (eventOf Weight engine call).Follows (perform Weight engine call).2.caches.snapshots := by
  cases call with
  | analyze around clock edit => exact analyze_follows keeps versioned around clock edit
  | update files path given => exact update_follows given
  | seed files path => exact seed_follows
  | clear files path => exact clear_follows
  | clearAll => exact clear_all_follows

theorem perform_versioned (versioned : AllVersioned engine.caches.refs) (call : Call) :
    AllVersioned (perform Weight engine call).2.caches.refs := by
  have updates (files : Files.FileSystem) (path : Path) (given : Option Text.Given) :
      AllVersioned (perform Weight engine (.update files path given)).2.caches.refs := by
    cases found : engine.absolute files path with
    | error failure =>
        rw [perform_update_lost Weight engine found]
        exact versioned
    | ok file =>
        rcases perform_update_cases Weight engine found given with ⟨same, -⟩ | ⟨text, -, same⟩
        · rw [same]
          exact versioned
        · rw [same]
          exact all_versioned_discard_path versioned _
  cases call with
  | analyze around clock edit => exact analyze_versioned versioned rfl
  | update files path given => exact updates files path given
  | seed files path =>
      cases found : engine.absolute files path with
      | error failure =>
          rw [perform_seed_lost Weight engine found]
          exact versioned
      | ok file =>
          rw [perform_seed_found Weight engine found]
          split
          · exact versioned
          · exact updates files path none
  | clear files path =>
      cases found : engine.absolute files path with
      | error failure =>
          rw [perform_clear_lost Weight engine found]
          exact versioned
      | ok file =>
          rw [perform_clear_found Weight engine found]
          exact all_versioned_discard_path versioned _
  | clearAll => exact all_versioned_empty

end Performing

/-! ## Runs -/

section Runs

variable [Scoring.Weighing Weight] {engine : Engine}

theorem run_versioned (versioned : AllVersioned engine.caches.refs) (calls : List Call) :
    AllVersioned (run Weight engine calls).2.caches.refs := by
  induction calls generalizing engine with
  | nil => exact versioned
  | cons call rest ih => exact ih (perform_versioned versioned call)

/-- After a run a path has the text that its last setting event gave it, or the one from before the
run if no event concerned it. -/
theorem get_after_run (keeps : engine.settings.baseline.keepSnapshots = true)
    (versioned : AllVersioned engine.caches.refs) (calls : List Call) (path : String)
    (text : Text.Given) :
    (run Weight engine calls).2.caches.snapshots.get? path = some text ↔
      LastSets (run Weight engine calls).1 path text ∨
        engine.caches.snapshots.get? path = some text ∧
          ∀ event ∈ (run Weight engine calls).1, ¬event.Touches path := by
  induction calls generalizing engine with
  | nil => simp [run, not_last_sets_nil]
  | cons call rest ih =>
      have settings : (perform Weight engine call).2.settings = engine.settings := by
        rw [perform_engine]
      have later := ih (by rw [settings]; exact keeps) (perform_versioned versioned call)
      have here : (eventOf Weight engine call).Follows
          (perform Weight engine call).2.caches.snapshots := perform_follows keeps versioned call
      rw [run_cons, later, here, last_sets_cons_iff]
      simp only [eventOf, List.mem_cons, forall_eq_or_imp, or_and_right, and_assoc, or_assoc]

end Runs

/-- A new engine that keeps snapshots has after any run of calls, for every path, the text that its
last setting event since it was last cleared gave it, and none if there was no such event. An
analysis that has a snapshot and no baseline from version control is one against that text. One that
is turned away, has its baseline from version control, or fails without breaking off leaves every
snapshot as it was. -/
theorem snapshots_are_last_set (Weight : Type) [Scoring.Weighing Weight] (tools : Tools)
    (root : Path) (settings : Settings) (keeps : settings.baseline.keepSnapshots = true)
    (calls : List Call) :
    let engine : Engine := { tools := tools, root := root, settings := settings }
    let events := (run Weight engine calls).1
    let reached := (run Weight engine calls).2
    (∀ path text, reached.caches.snapshots.get? path = some text ↔ LastSets events path text) ∧
      (∀ path, reached.caches.snapshots.get? path = none ↔
        ∀ text, ¬LastSets events path text) ∧
      ∀ around clock edit,
        let reply : Reply (Except Failure (Analysis Weight)) := reached.analyze around clock edit
        (∀ analysis place old, reply.answer = .ok analysis →
          reached.placeOf around.files edit.path = .ok place → ¬analysis.TurnedAway →
          analysis.baseline.kind.isVersioned = false →
          LastSets events place.file.toString old →
          ∃ current origin,
            currentText around.files place.file edit.buffer = .ok (Text.given current, origin) ∧
            ((reached.against around.files place edit current origin
              ⟨old, analysis.baseline, false⟩).run clock).answer = .ok analysis) ∧
        ((∃ failure, reply.answer = .error failure ∧
            ∀ place text, ¬BreaksOff Weight reached around clock edit place text) ∨
            (∃ analysis, reply.answer = .ok analysis ∧
              (analysis.TurnedAway ∨ analysis.baseline.kind.isVersioned = true)) →
          reply.engine.caches.snapshots = reached.caches.snapshots) := by
  intro engine events reached
  have held (path : String) (text : Text.Given) :
      reached.caches.snapshots.get? path = some text ↔ LastSets events path text := by
    have stored : reached.caches.snapshots.get? path = some text ↔
        LastSets events path text ∨ engine.caches.snapshots.get? path = some text ∧
          ∀ event ∈ events, ¬event.Touches path :=
      get_after_run keeps all_versioned_empty calls path text
    rw [stored]
    simp [engine, Store.get?]
  refine ⟨held, ?_, ?_⟩
  · intro path
    rw [Option.eq_none_iff_forall_ne_some]
    exact forall_congr' fun text => not_congr (held path text)
  · intro around clock edit reply
    have same : reached.settings = settings :=
      congrArg Engine.settings (run_engine Weight engine calls)
    have still : reached.settings.baseline.keepSnapshots = true := by
      rw [same]
      exact keeps
    have concluded : Concludes reached around clock edit reply.answer
        reply.engine.caches.snapshots :=
      analyze_concludes still (run_versioned all_versioned_empty calls) (Eq.refl reply)
    constructor
    · intro analysis place old answered found carried kind last
      rw [answered] at concluded
      exact concluded.against_existing found carried kind
        ((held place.file.toString old).mpr last)
    · exact concluded.left_alone

/-- A text, then nothing, then the text of a buffer that is its own baseline. -/
theorem buffer_snapshot_is_last_set :
    let engine : Engine := { tools := plainTools, root := ⟨.slash, ["work"]⟩ }
    let file : Path := ⟨.relative, ["a.ts"]⟩
    let one := Text.given ['x']
    let two := Text.given ['y']
    let events := (run Float engine
      [.update unreadableFiles file (some one), .clear unreadableFiles file,
        .analyze ⟨unreadableFiles, none⟩ (.steady 0) { path := file, buffer := some two }]).1
    engine.settings.baseline.keepSnapshots = true ∧
      LastSets events "/work/a.ts" two ∧ ¬LastSets events "/work/a.ts" one := by
  intro engine file one two events
  obtain ⟨held, -⟩ := snapshots_are_last_set Float plainTools engine.root {} rfl
    [.update unreadableFiles file (some one), .clear unreadableFiles file,
      .analyze ⟨unreadableFiles, none⟩ (.steady 0) { path := file, buffer := some two }]
  refine ⟨rfl, (held _ _).mp ?_, fun last => ?_⟩
  · decide +kernel
  · have stored := (held _ _).mpr last
    revert stored
    decide +kernel

/-- A directory with a link to itself, and a file beside it. -/
def circularFiles : Files.FileSystem where
  resolve path := if path.name = "loop.ts" then .error (.loop path) else .ok path.resolve
  read path := if path.name = "a.ts" then .ok ['a'] else .error none
  size _ := some 1
  listings :=
    [(⟨.slash, ["work"]⟩,
      [⟨"a.ts", ⟨.slash, ["work", "a.ts"]⟩, false⟩,
        ⟨"loop.ts", ⟨.slash, ["work", "loop.ts"]⟩, false⟩])]

/-- The search for tests comes upon the link when the text on disk has been kept already. -/
theorem failed_analysis_leaves_snapshot :
    let engine : Engine := { tools := plainTools, root := ⟨.slash, ["work"]⟩ }
    let edit : Edit := { path := ⟨.relative, ["a.ts"]⟩, buffer := some (Text.given ['b']) }
    let reply : Reply (Except Failure (Analysis Float)) :=
      engine.analyze ⟨circularFiles, none⟩ ⟨fun _ => 0⟩ edit
    (∃ failure, reply.answer = .error failure) ∧
      engine.caches.snapshots.get? "/work/a.ts" = none ∧
      reply.engine.caches.snapshots.get? "/work/a.ts" = some (Text.given ['a']) := by
  intro engine edit reply
  let around : Surroundings := ⟨circularFiles, none⟩
  let place : Place := ⟨⟨.slash, ["work", "a.ts"]⟩, "a.ts"⟩
  let disk : Resolved :=
    ⟨Text.given ['a'],
      { kind := .snapshot, available := true, reason := some (.fallback .noRepository) }, false⟩
  let outcome : Outcome := ⟨disk, { snapshots := ⟨[("/work/a.ts", Text.given ['a'])]⟩ }, []⟩
  have admitted : Admitted engine.settings.scan around.files place.file edit.buffer ['b']
      .buffer := by
    refine ⟨⟨by decide, nofun⟩, rfl, by decide, 5242880, by decide, by decide⟩
  have compares : Compares engine around edit place ['b'] .buffer outcome :=
    ⟨rfl, admitted, _, rfl, by rfl⟩
  have patient : ¬(0 : Float) + engine.settings.scan.timeout < 0 := by decide +kernel
  have beside : (⟨.slash, ["work", "loop.ts"]⟩ : Path) ∈
      Files.listedFiles (circularFiles.entries ⟨.slash, ["work"]⟩) := by decide
  have searched : ∃ failure, ((Impact.nearbyTests circularFiles engine.settings.scan place.file).run
      ⟨fun _ => 0⟩).answer = .error failure :=
    Impact.nearby_tests_stuck patient rfl (by decide) beside rfl
  obtain ⟨failure, stuck⟩ : ∃ failure, ((engine.against around.files place edit ['b'] .buffer
      outcome.baseline : Files.Timed (Analysis Float)).run ⟨fun _ => 0⟩).answer = .error failure :=
    engine.against_stuck place edit ['b'] .buffer outcome.baseline patient (by decide) rfl
      (by decide +kernel) (by decide +kernel) searched
  have broken : BreaksOff Float engine around ⟨fun _ => 0⟩ edit place ['a'] :=
    ⟨rfl, rfl, _, _, _, failure, compares, rfl, stuck⟩
  obtain ⟨failed, left⟩ := broken.replied rfl all_versioned_empty (Eq.refl reply)
  have named : place.file.toString = "/work/a.ts" := by decide
  rw [named] at left
  exact ⟨failed, rfl, left⟩

end EditImpact.Engine
