import EditImpact.Impact.Report
import EditImpact.Proofs.Impact.Limits

/-!
# What holds of whole searches

Reports and searches are put together from answers and walks, so what holds of these holds of them
(`Stepwise.report`, `Stepwise.nearby_tests`). They take from the clock only whether a walk is stopped
(`Stepwise.steady`), a clock that stands still stops none (`Stepwise.still`), and if they fail, some
path leads nowhere or the size limit is no number of bytes (`Stepwise.fails`).
-/

namespace EditImpact.Impact

open Files Timed

set_option autoImplicit false

/-! ## Failures -/

/-- What can get in the way of a search. -/
inductive Obstacle (files : FileSystem) (scan : Settings.Scan) : Failure → Prop where
  | lost (path : Path) (why : Unresolved) (unresolved : files.resolve path = .error why) :
    Obstacle files scan (.unresolvable why)
  | uncountable (noLimit : scan.byteLimit = none) :
    Obstacle files scan (.limitUncountable (.ofFloat scan.sizeLimit))

section Failures

variable {files : FileSystem} {scan : Settings.Scan} {path : Path} {paths : List Path}
  {failure : Failure}

theorem Obstacle.of_real (failed : files.real path = .error failure) :
    Obstacle files scan failure := by
  obtain ⟨why, lost, rfl⟩ := real_eq_error_iff.mp failed
  exact .lost path why lost

theorem Obstacle.of_reals (failed : files.reals paths = .error failure) :
    Obstacle files scan failure := by
  obtain ⟨path, -, lost⟩ := problem_of_map_answers failed
  exact .of_real lost

theorem Obstacle.of_judge {named : Path → Bool} {source : Path}
    (failed : judgeOther files scan named source path = .error failure) :
    Obstacle files scan failure := by
  cases leads : files.resolve path with
  | ok real =>
      obtain ⟨-, -, noLimit, rfl⟩ := judge_other_failure leads failed
      exact .uncountable noLimit
  | error why =>
      rw [judgeOther, real_error leads] at failed
      cases failed
      exact .lost path why leads

/-- Only a path that leads nowhere cannot be shown. -/
theorem lost_of_shown {root : Path} (failed : shownFrom files root path = .error failure) :
    ∃ path why, files.resolve path = .error why ∧ failure = .unresolvable why := by
  unfold shownFrom at failed
  cases here : files.resolve path with
  | error why =>
      rw [here] at failed
      cases why with
      | nul => cases failed
      | loop rest =>
          cases failed
          exact ⟨path, _, here, rfl⟩
  | ok real =>
      cases top : files.resolve root with
      | error why =>
          rw [here, top] at failed
          cases why with
          | nul => cases failed
          | loop rest =>
              cases failed
              exact ⟨root, _, top, rfl⟩
      | ok start =>
          rw [here, top] at failed
          dsimp only [bind, Except.bind, pure, Except.pure] at failed
          split at failed <;> simp_all

theorem Obstacle.of_shown {root : Path} (failed : shownFrom files root path = .error failure) :
    Obstacle files scan failure := by
  obtain ⟨path, why, lost, rfl⟩ := lost_of_shown failed
  exact .lost path why lost

theorem Obstacle.of_all_shown {root : Path}
    (failed : allShownFrom files root paths = .error failure) : Obstacle files scan failure := by
  obtain ⟨path, -, lost⟩ := problem_of_map_answers failed
  exact .of_shown lost

end Failures

/-! ## Properties of whole searches -/

/-- A property that computations have as soon as all their steps have it: answers that fail in
foreseen ways only, and walks that judge so. All obstacles are foreseen. -/
structure Stepwise (files : FileSystem) (scan : Settings.Scan) where
  Holds : {Item : Type} → Timed Item → Prop
  Foreseen : Failure → Prop
  covers : ∀ failure, Obstacle files scan failure → Foreseen failure
  told : ∀ {Item : Type} (answer : Except Failure Item),
    (∀ failure, answer = .error failure → Foreseen failure) → Holds (told answer)
  bind : ∀ {Item Other : Type} {timed : Timed Item} {next : Item → Timed Other}, Holds timed →
    (∀ item, Holds (next item)) → Holds (timed >>= next)
  walking : ∀ (roots : List Path) (judge : Path → Except Failure Bool),
    (∀ path failure, judge path = .error failure → Foreseen failure) →
      Holds (walking (walkWith files scan) roots judge)

/-- The answer does not depend on the clock. -/
def Stepwise.steady (files : FileSystem) (scan : Settings.Scan) : Stepwise files scan where
  Holds := Steady
  Foreseen _ := True
  covers _ _ := trivial
  told answer _ := steady_told answer
  bind := Steady.bind
  walking _ _ _ := steady_walking

/-- A clock that stands still stops nothing. -/
def Stepwise.still (files : FileSystem) {scan : Settings.Scan} {time : Float}
    (patient : ¬time + scan.timeout < time) : Stepwise files scan where
  Holds := Still time
  Foreseen _ := True
  covers _ _ := trivial
  told answer _ := still_told answer
  bind := Still.bind
  walking _ _ _ := still_walking <| by
    rintro _ ⟨⟩
    exact patient

/-- All failures are foreseen. -/
def Stepwise.fails (files : FileSystem) (scan : Settings.Scan) (foreseen : Failure → Prop)
    (covers : ∀ failure, Obstacle files scan failure → foreseen failure) :
    Stepwise files scan where
  Holds := FailsOnly foreseen
  Foreseen := foreseen
  covers := covers
  told _ := fails_only_told
  bind := FailsOnly.bind
  walking _ _ := fails_only_walking

namespace Stepwise

variable {files : FileSystem} {scan : Settings.Scan} (property : Stepwise files scan)

theorem done {Item : Type} (item : Item) : property.Holds (pure item) :=
  property.told (.ok item) nofun

/-- An answer that fails over obstacles only. -/
theorem asked {Item : Type} {answer : Except Failure Item}
    (obstacles : ∀ failure, answer = .error failure → Obstacle files scan failure) :
    property.Holds (Timed.told answer) :=
  property.told answer fun failure failed => property.covers failure (obstacles failure failed)

/-- A walk whose judgments fail over obstacles only. -/
theorem walked (roots : List Path) {judge : Path → Except Failure Bool}
    (obstacles : ∀ path failure, judge path = .error failure → Obstacle files scan failure) :
    property.Holds (Timed.walking (walkWith files scan) roots judge) :=
  property.walking roots judge fun path failure failed =>
    property.covers failure (obstacles path failure failed)

theorem scan_downstream (source : Path) (changes : ChangeSet) :
    property.Holds (scanDownstream files scan source changes) := by
  unfold scanDownstream
  refine property.bind (property.asked fun _ => .of_real) fun here => ?_
  split
  · exact property.done _
  · exact property.bind (property.walked _ fun _ _ => .of_judge) fun walked =>
      property.bind (property.asked fun _ => .of_reals) fun downstream => property.done _

theorem find_tests (source : Path) (root : Option Path) (symbols : List String) :
    property.Holds (findTests files scan source root symbols) := by
  unfold findTests
  exact property.bind (property.asked fun _ => .of_real) fun here =>
    property.bind (property.asked fun _ => .of_real) fun top =>
      property.bind (property.walked _ fun _ _ => .of_judge) fun walked =>
        property.bind (property.asked fun _ => .of_reals) fun found => property.done _

theorem nearby_tests (source : Path) : property.Holds (nearbyTests files scan source) := by
  have judging (source path : Path) (failure : Failure)
      (failed : (do
        let candidate ← judgeOther files scan (isNamedTest scan) source path
        return candidate && namesSource path.name source.stem) = .error failure) :
      Obstacle files scan failure := by
    cases judged : judgeOther files scan (isNamedTest scan) source path with
    | ok candidate =>
        rw [judged] at failed
        cases failed
    | error other =>
        rw [judged] at failed
        cases failed
        exact .of_judge judged
  unfold nearbyTests
  exact property.bind (property.asked fun _ => .of_real) fun here =>
    property.bind (property.walked _ (judging here)) fun walked =>
      property.asked fun _ => .of_reals

theorem report (source root : Path) (changes : ChangeSet) :
    property.Holds (Impact.report files scan source root changes) := by
  unfold Impact.report
  refine property.bind (property.asked fun _ => .of_shown) fun shown => ?_
  split
  · exact property.done _
  · exact property.bind (property.scan_downstream source changes) fun scanned =>
      property.bind (property.find_tests source (some root) changes.symbols) fun found =>
        property.bind (property.asked fun _ => .of_all_shown) fun downstream =>
          property.bind (property.asked fun _ => .of_all_shown) fun tests => property.done _

end Stepwise

/-- A path beside the source that leads nowhere is the end of the search for tests there. -/
theorem nearby_tests_stuck {files : FileSystem} {scan : Settings.Scan} {time : Float}
    {source here path : Path} {why : Unresolved} (patient : ¬time + scan.timeout < time)
    (leads : files.resolve source = .ok here) (known : here.parent ∈ files.directories)
    (listed : path ∈ listedFiles (files.entries here.parent))
    (lost : files.resolve path = .error why) :
    ∃ failure, ((nearbyTests files scan source).run ⟨fun _ => time⟩).answer = .error failure := by
  unfold nearbyTests
  rw [lift_eq_told, real_ok leads, told_ok_bind]
  let judge (path : Path) : Except Failure Bool := do
    let candidate ← judgeOther files scan (isNamedTest scan) here path
    return candidate && namesSource path.name here.stem
  have stuck : ∃ failure, judge path = .error failure :=
    ⟨.unresolvable why, by simp only [judge, judgeOther, real_error lost]; rfl⟩
  have patient : ∀ limit, (walkWith files scan).timeout = some limit → ¬time + limit < time := by
    rintro _ ⟨⟩
    exact patient
  obtain ⟨failure, failed⟩ : ∃ failure,
      ((walking (walkWith files scan) [here.parent] judge).run ⟨fun _ => time⟩).answer =
        .error failure := walking_stuck patient known listed stuck
  rcases walked : (walking (walkWith files scan) [here.parent] judge).run ⟨fun _ => time⟩ with
    ⟨answer, stopped, later⟩
  rw [walked] at failed
  cases failed
  exact ⟨failure, congrArg Lapse.answer (run_bind_error walked)⟩

end EditImpact.Impact
