import EditImpact.Proofs.Baseline.Locality
import EditImpact.Proofs.Engine.Repeats

/-!
# Files do not get in each other's way

The calls to one engine share its caches, whatever files they are about. `perform_alike` says that
the answer to a call is a function of what is remembered of its own file, and `perform_elsewhere`
that a call leaves what is remembered of other files alone. So the calls on other files can be taken
out of a run (`calls_on_other_files_do_not_matter`). The calls that stay may then come at other
times, which shows only where a walk is stopped.
-/

namespace EditImpact.Engine

open Baseline

set_option autoImplicit false

/-- A path means a file, or it cannot be resolved. -/
def means (engine : Engine) (file : String) (files : Files.FileSystem) (path : Path) : Bool :=
  match engine.absolute files path with
  | .ok real => real.toString == file
  | .error _ => true

/-- A call is about a file or about all of them, or about none since its path cannot be resolved. -/
def concerns (engine : Engine) (file : String) : Call → Bool
  | .analyze around _ edit => engine.means file around.files edit.path
  | .update files path _ => engine.means file files path
  | .seed files path => engine.means file files path
  | .clear files path => engine.means file files path
  | .clearAll => true

section Meaning

variable {engine other : Engine} {file : String} {files : Files.FileSystem} {path real : Path}

/-- Which calls are about a file depends on the engine only through its root. -/
theorem concerns_of_root (same : other.root = engine.root) :
    other.concerns = engine.concerns := by
  funext file call
  cases call <;> simp only [concerns, means, absolute, same]

theorem name_of_means (own : engine.means file files path = true)
    (found : engine.absolute files path = .ok real) : real.toString = file := by
  rw [means, found] at own
  exact beq_iff_eq.mp own

/-- Another file than the one meant was found. -/
theorem found_of_not_means (foreign : engine.means file files path = false) :
    ∃ real, engine.absolute files path = .ok real ∧ real.toString ≠ file := by
  unfold means at foreign
  split at foreign
  · next real found => exact ⟨real, found, beq_eq_false_iff_ne.mp foreign⟩
  · cases foreign

end Meaning

/-- The answers of a run to the calls about a file. -/
def answersOn {Weight : Type} (engine : Engine) (file : String) (events : List (Event Weight)) :
    List (Answer Weight) :=
  (events.filter fun event => engine.concerns file event.call).map (·.answer)

/-- The same call by another clock; only an analysis looks at it. -/
def Call.timed (clock : Files.Clock) : Call → Call
  | .analyze around _ edit => .analyze around clock edit
  | call => call

/-- No walk of a call is stopped by its deadline. -/
def InTime (Weight : Type) [Scoring.Weighing Weight] (engine : Engine) : Call → Prop
  | .analyze around clock edit =>
    (engine.analyze around clock edit : Reply (Except Failure (Analysis Weight))).stopped = false
  | _ => True

/-- Engines that are set up alike and remember the same of a file. -/
structure Alike (file : String) (engine other : Engine) : Prop where
  tools : engine.tools = other.tools
  root : engine.root = other.root
  settings : engine.settings = other.settings
  caches : engine.caches.Alike file other.caches

namespace Alike

variable {file : String} {engine other : Engine}

theorem trans {third : Engine} (first : Alike file engine other) (second : Alike file other third) :
    Alike file engine third :=
  ⟨first.tools.trans second.tools, first.root.trans second.root,
    first.settings.trans second.settings, first.caches.trans second.caches⟩

theorem absolute (alike : Alike file engine other) : engine.absolute = other.absolute := by
  funext files path
  simp only [Engine.absolute, alike.root]

end Alike

theorem alike_of_caches {file : String} (engine : Engine) {caches other : Caches}
    (alike : caches.Alike file other) :
    Alike file { engine with caches := caches } { engine with caches := other } :=
  ⟨rfl, rfl, rfl, alike⟩

theorem alike_refl (file : String) (engine : Engine) : Alike file engine engine :=
  ⟨rfl, rfl, rfl, Caches.alike_refl file _⟩

section Analyses

variable {Weight : Type} {file : String}

theorem remembered_alike (settings : Settings.Baseline) {one two : Outcome}
    (same : one.baseline = two.baseline) (alike : one.caches.Alike file two.caches) (path : Path)
    (current : List Char) (answer : Except Failure (Analysis Weight)) :
    (remembered settings path current one answer).Alike file
      (remembered settings path current two answer) := by
  cases answer with
  | ok analysis => exact recorded_alike settings same alike path current
  | error failure => exact alike

theorem remembered_elsewhere (settings : Settings.Baseline) (outcome : Outcome) {path : Path}
    (different : path.toString ≠ file) (current : List Char)
    (answer : Except Failure (Analysis Weight)) :
    (remembered settings path current outcome answer).Alike file outcome.caches := by
  cases answer with
  | ok analysis => exact recorded_elsewhere settings outcome different current
  | error failure => exact Caches.alike_refl file _

variable [Scoring.Weighing Weight]

/-- The answer of an analysis, and what is remembered of its file afterwards, are functions of what
was remembered of this file. -/
theorem analyze_alike {engine : Engine} {caches other : Caches} {around : Surroundings}
    {clock later : Files.Clock} {edit : Edit} (alike : caches.Alike file other)
    (own : engine.means file around.files edit.path = true)
    {one two : Reply (Except Failure (Analysis Weight))}
    (replied : { engine with caches := caches }.analyze around clock edit = one)
    (repliedAnew : { engine with caches := other }.analyze around later edit = two)
    (inTime : one.stopped = false) (inTimeAnew : two.stopped = false) :
    one.answer = two.answer ∧ Alike file one.engine two.engine := by
  cases analyze_ends replied with
  | failed failure unjudged =>
      obtain rfl := repliedAnew.symm.trans (analyze_of_not_judged unjudged)
      exact ⟨rfl, alike_of_caches engine alike⟩
  | turnedAway place reason origin found turned =>
      have there : { engine with caches := other }.placeOf around.files edit.path = .ok place := found
      obtain rfl := repliedAnew.symm.trans (analyze_of_rejected there turned)
      exact ⟨rfl, alike_of_caches engine alike⟩
  | unmade place current origin failure found admitted unmade =>
      have there : { engine with caches := other }.placeOf around.files edit.path = .ok place := found
      obtain rfl := repliedAnew.symm.trans (analyze_of_no_request there admitted unmade)
      exact ⟨rfl, alike_of_caches engine alike⟩
  | compared place current origin outcome answer stopped after compares ran =>
      obtain ⟨found, admitted, request, made, rfl⟩ := compares
      obtain ⟨samePath, -⟩ := request_of_ok made
      obtain rfl : place.file.toString = file :=
        name_of_means own (place_of_eq_ok_iff.mp found).1
      rw [← samePath] at alike
      obtain ⟨sameBaseline, left⟩ := resolve_alike engine.settings.baseline around alike
      have compares : Compares { engine with caches := other } around edit place current origin
          (resolve engine.settings.baseline around other request) :=
        ⟨found, admitted, request, made, rfl⟩
      obtain rfl := repliedAnew.symm.trans (analyze_of_compares compares rfl)
      rw [against_with_caches, ← sameBaseline] at inTimeAnew ⊢
      rw [against_with_caches] at ran
      have same := engine.against_steady place edit current origin
        (resolve engine.settings.baseline around caches request).baseline
        ((congrArg Files.Lapse.stopped ran).trans inTime) inTimeAnew
      have answered : answer = _ := (congrArg Files.Lapse.answer ran).symm.trans same
      rw [samePath] at left
      refine ⟨answered, alike_of_caches engine ?_⟩
      rw [← answered]
      exact remembered_alike _ sameBaseline left _ _ _

/-- An analysis leaves what is remembered of other files alone. -/
theorem analyze_elsewhere {engine : Engine} {around : Surroundings} {clock : Files.Clock}
    {edit : Edit} (foreign : engine.means file around.files edit.path = false)
    {reply : Reply (Except Failure (Analysis Weight))}
    (replied : engine.analyze around clock edit = reply) : Alike file reply.engine engine := by
  cases analyze_ends replied with
  | failed | turnedAway | unmade => exact alike_refl file engine
  | compared place current origin outcome answer stopped later compares ran =>
      obtain ⟨found, admitted, request, made, rfl⟩ := compares
      obtain ⟨samePath, -⟩ := request_of_ok made
      obtain ⟨real, there, different⟩ := found_of_not_means foreign
      rw [(place_of_eq_ok_iff.mp found).1] at there
      cases there
      rw [← samePath] at different
      have left := resolve_elsewhere engine.settings.baseline around engine.caches different
      rw [samePath] at different
      exact ⟨rfl, rfl, rfl, (remembered_elsewhere _ _ different current answer).trans left⟩

end Analyses

section Updates

variable {file : String} {engine other : Engine}

theorem updated_alike (alike : Alike file engine other) (path : String) (text : Text.Given) :
    Alike file (engine.updated path text) (other.updated path text) := by
  refine ⟨alike.tools, alike.root, alike.settings, ?_,
    RefCache.discard_path_alike alike.caches.refs path⟩
  simp only [updated, Store.get_put, alike.caches.snapshot]

theorem updated_elsewhere (engine : Engine) {path : String} (different : path ≠ file)
    (text : Text.Given) : Alike file (engine.updated path text) engine := by
  refine ⟨rfl, rfl, rfl, ?_, RefCache.discard_path_elsewhere different _⟩
  simp only [updated, Store.get_put, if_neg different.symm]

theorem cleared_alike (alike : Alike file engine other) (path : String) :
    Alike file (engine.cleared path) (other.cleared path) := by
  refine ⟨alike.tools, alike.root, alike.settings, ?_,
    RefCache.discard_path_alike alike.caches.refs path⟩
  simp only [cleared, Store.get_discard, alike.caches.snapshot]

theorem cleared_elsewhere (engine : Engine) {path : String} (different : path ≠ file) :
    Alike file (engine.cleared path) engine := by
  refine ⟨rfl, rfl, rfl, ?_, RefCache.discard_path_elsewhere different _⟩
  simp only [cleared, Store.get_discard, if_neg different.symm]

end Updates

section Calls

variable (Weight : Type) [Scoring.Weighing Weight] {file : String} {engine other : Engine}

/-- An update looks at nothing that is remembered. -/
theorem perform_update_alike (alike : Alike file engine other) (files : Files.FileSystem)
    (path : Path) (given : Option Text.Given) :
    (perform Weight engine (.update files path given)).1 =
        (perform Weight other (.update files path given)).1 ∧
      Alike file (perform Weight engine (.update files path given)).2
        (perform Weight other (.update files path given)).2 := by
  have same := congrFun₂ alike.absolute files path
  cases found : engine.absolute files path with
  | error failure =>
      rw [perform_update_lost Weight engine found,
        perform_update_lost Weight other (same.symm.trans found)]
      exact ⟨rfl, alike⟩
  | ok real =>
      have foundToo := same.symm.trans found
      rcases perform_update_cases Weight engine found given with
        ⟨here, none⟩ | ⟨text, source, here⟩
      · rcases perform_update_cases Weight other foundToo given with
          ⟨there, -⟩ | ⟨text, source, -⟩
        · rw [here, there]
          exact ⟨rfl, alike⟩
        · exact absurd ((source text).mpr rfl) (none text)
      · rcases perform_update_cases Weight other foundToo given with
          ⟨-, none⟩ | ⟨textToo, sourceToo, there⟩
        · exact absurd ((source text).mpr rfl) (none text)
        · obtain rfl : text = textToo := (sourceToo text).mp ((source text).mpr rfl)
          rw [here, there]
          exact ⟨rfl, updated_alike alike real.toString text⟩

theorem perform_update_elsewhere {files : Files.FileSystem} {path : Path}
    (given : Option Text.Given) (foreign : engine.means file files path = false) :
    Alike file (perform Weight engine (.update files path given)).2 engine := by
  obtain ⟨real, found, different⟩ := found_of_not_means foreign
  rcases perform_update_cases Weight engine found given with ⟨here, -⟩ | ⟨text, -, here⟩
  · rw [here]
    exact alike_refl file engine
  · rw [here]
    exact updated_elsewhere engine different text

/-- The answer to a call about a file, and what is remembered of the file afterwards, are functions
of what was remembered of it. -/
theorem perform_alike (alike : Alike file engine other) {call : Call} (later : Files.Clock)
    (own : engine.concerns file call = true) (inTime : InTime Weight engine call)
    (inTimeLater : InTime Weight other (call.timed later)) :
    (perform Weight engine call).1 = (perform Weight other (call.timed later)).1 ∧
      Alike file (perform Weight engine call).2 (perform Weight other (call.timed later)).2 := by
  cases call with
  | analyze around clock edit =>
      obtain ⟨tools, root, settings, caches⟩ := engine
      obtain ⟨_, _, _, kept⟩ := other
      obtain ⟨rfl, rfl, rfl, same⟩ := alike
      obtain ⟨answers, left⟩ := analyze_alike same own rfl rfl inTime inTimeLater
      exact ⟨congrArg Answer.analysis answers, left⟩
  | update files path given => exact perform_update_alike Weight alike files path given
  | seed files path =>
      have same := congrFun₂ alike.absolute files path
      dsimp only [Call.timed]
      cases found : engine.absolute files path with
      | error failure =>
          rw [perform_seed_lost Weight engine found,
            perform_seed_lost Weight other (same.symm.trans found)]
          exact ⟨rfl, alike⟩
      | ok real =>
          have held : engine.caches.snapshots.contains real.toString =
              other.caches.snapshots.contains real.toString := by
            rw [name_of_means own found, Store.contains, Store.contains, alike.caches.snapshot]
          rw [perform_seed_found Weight engine found,
            perform_seed_found Weight other (same.symm.trans found), held]
          split
          · exact ⟨rfl, alike⟩
          · exact perform_update_alike Weight alike files path none
  | clear files path =>
      have same := congrFun₂ alike.absolute files path
      dsimp only [Call.timed]
      cases found : engine.absolute files path with
      | error failure =>
          rw [perform_clear_lost Weight engine found,
            perform_clear_lost Weight other (same.symm.trans found)]
          exact ⟨rfl, alike⟩
      | ok real =>
          rw [perform_clear_found Weight engine found,
            perform_clear_found Weight other (same.symm.trans found)]
          exact ⟨rfl, cleared_alike alike real.toString⟩
  | clearAll =>
      exact ⟨rfl, alike.tools, alike.root, alike.settings, Caches.alike_refl file _⟩

theorem perform_elsewhere {call : Call} (foreign : engine.concerns file call = false) :
    Alike file (perform Weight engine call).2 engine := by
  cases call with
  | analyze around clock edit => exact analyze_elsewhere foreign rfl
  | update files path given => exact perform_update_elsewhere Weight given foreign
  | seed files path =>
      obtain ⟨real, found, -⟩ := found_of_not_means foreign
      rw [perform_seed_found Weight engine found]
      split
      · exact alike_refl file engine
      · exact perform_update_elsewhere Weight none foreign
  | clear files path =>
      obtain ⟨real, found, different⟩ := found_of_not_means foreign
      rw [perform_clear_found Weight engine found]
      exact cleared_elsewhere engine different
  | clearAll => cases foreign

/-- By induction on the run: a call about the file is answered alike on both sides, and any other
call leaves the two engines alike. -/
theorem run_alike {calls anew : List Call} (alike : Alike file engine other)
    (remaining : List.Forall₂ (fun call again => ∃ clock, again = call.timed clock)
      (calls.filter (engine.concerns file)) anew)
    (inTime : Along Weight (InTime Weight) engine calls)
    (inTimeAnew : Along Weight (InTime Weight) other anew) :
    engine.answersOn file (run Weight engine calls).1 =
        (run Weight other anew).1.map (·.answer) ∧
      Alike file (run Weight engine calls).2 (run Weight other anew).2 := by
  induction calls generalizing engine other anew with
  | nil =>
      cases remaining
      exact ⟨rfl, alike⟩
  | cons call rest ih =>
      have sameConcerns : (perform Weight engine call).2.concerns = engine.concerns := by
        apply concerns_of_root
        rw [perform_engine]
      cases own : engine.concerns file call with
      | true =>
          rw [List.filter_cons_of_pos own] at remaining
          cases remaining with
          | cons first others =>
              obtain ⟨clock, rfl⟩ := first
              obtain ⟨answer, next⟩ :=
                perform_alike Weight alike clock own inTime.1 inTimeAnew.1
              obtain ⟨answers, left⟩ :=
                ih next (by rwa [sameConcerns]) inTime.2 inTimeAnew.2
              refine ⟨?_, left⟩
              simp only [answersOn, sameConcerns] at answers
              simp only [answersOn, run_cons, List.filter_cons_of_pos, own, List.map_cons, answer,
                answers]
      | false =>
          rw [List.filter_cons_of_neg (by simp [own])] at remaining
          have next := (perform_elsewhere Weight own).trans alike
          obtain ⟨answers, left⟩ := ih next (by rwa [sameConcerns]) inTime.2 inTimeAnew
          refine ⟨?_, left⟩
          simp only [answersOn, sameConcerns] at answers
          simp only [answersOn, run_cons, List.filter_cons, own, Bool.false_eq_true, if_false,
            answers]

/-- At a clock that stands still, no call of a run is stopped. -/
theorem along_still {calls : List Call} (time : Float)
    (patient : ¬time + engine.settings.scan.timeout < time)
    (still : ∀ call ∈ calls, call.timed ⟨fun _ => time⟩ = call) :
    Along Weight (InTime Weight) engine calls := by
  induction calls generalizing engine with
  | nil => trivial
  | cons call rest ih =>
      obtain ⟨here, later⟩ := List.forall_mem_cons.mp still
      constructor
      · rw [← here]
        cases call with
        | analyze around clock edit => exact engine.analyze_still edit patient rfl
        | update | seed | clear | clearAll => trivial
      · refine ih ?_ later
        rw [perform_engine]
        exact patient

end Calls

/-- Take all calls on other files out of a run, and make the remaining calls at whatever times. As
long as no walk is stopped, the remaining calls are answered as before, and in the end the engine
has the same snapshot and the same cached baselines of the file. -/
theorem calls_on_other_files_do_not_matter (Weight : Type) [Scoring.Weighing Weight]
    (engine : Engine) (file : String) (calls : List Call) {remaining : List Call}
    (same : List.Forall₂ (fun call again => ∃ clock, again = call.timed clock)
      (calls.filter (engine.concerns file)) remaining)
    (inTime : Along Weight (InTime Weight) engine calls)
    (inTimeAnew : Along Weight (InTime Weight) engine remaining) :
    let whole := run Weight engine calls
    let alone := run Weight engine remaining
    engine.answersOn file whole.1 = alone.1.map (·.answer) ∧
      whole.2.caches.snapshots.get? file = alone.2.caches.snapshots.get? file ∧
      ∀ key, key.path = file →
        Store.get? whole.2.caches.refs key = Store.get? alone.2.caches.refs key := by
  intro whole alone
  obtain ⟨answers, left⟩ := run_alike Weight (alike_refl file engine) same inTime inTimeAnew
  exact ⟨answers, left.caches.snapshot, left.caches.refs⟩

/-- Two files in turn, with everything forgotten in between. -/
theorem calls_on_second_file_do_not_matter :
    let engine : Engine := { tools := plainTools, root := ⟨.slash, ["work"]⟩ }
    let around : Surroundings :=
      ⟨unreadableFiles, some (oneTextVcs "func F(a int) \x7b\x7d\n".toList)⟩
    let first : Edit :=
      { path := ⟨.relative, ["a.go"]⟩
        buffer := some (Text.given "func K() \x7b\x7d\n".toList) }
    let second : Edit := { first with path := ⟨.relative, ["b.go"]⟩ }
    let text := some (Text.given ['x'])
    let calls : List Call :=
      [.analyze around ⟨fun _ => 0⟩ second, .update unreadableFiles first.path text,
        .analyze around ⟨fun _ => 0⟩ first, .clear unreadableFiles second.path, .clearAll,
        .analyze around ⟨fun _ => 0⟩ second, .analyze around ⟨fun _ => 0⟩ first]
    let remaining : List Call :=
      [.update unreadableFiles first.path text, .analyze around ⟨fun _ => 1⟩ first,
        .clearAll, .analyze around ⟨fun _ => 1⟩ first]
    engine.answersOn "/work/a.go" (run ℚ engine calls).1 =
        (run ℚ engine remaining).1.map (·.answer) ∧
      (run ℚ engine calls).2.caches.snapshots.get? "/work/a.go" =
        (run ℚ engine remaining).2.caches.snapshots.get? "/work/a.go" := by
  intro engine around first second text calls remaining
  have same : List.Forall₂ (fun call again => ∃ clock, again = Call.timed clock call)
      (calls.filter (engine.concerns "/work/a.go")) remaining :=
    .cons ⟨⟨fun _ => 1⟩, rfl⟩ (.cons ⟨⟨fun _ => 1⟩, rfl⟩ (.cons ⟨⟨fun _ => 1⟩, rfl⟩
      (.cons ⟨⟨fun _ => 1⟩, rfl⟩ .nil)))
  have inTime : Along ℚ (InTime ℚ) engine calls :=
    along_still ℚ 0 (by decide +kernel) (by simp [calls, Call.timed])
  have inTimeAnew : Along ℚ (InTime ℚ) engine remaining :=
    along_still ℚ 1 (by decide +kernel) (by simp [remaining, Call.timed])
  obtain ⟨answers, snapshot, -⟩ :=
    calls_on_other_files_do_not_matter ℚ engine "/work/a.go" calls same inTime inTimeAnew
  exact ⟨answers, snapshot⟩

end EditImpact.Engine
