import EditImpact.Files.Timed
import EditImpact.Proofs.Files.Judging

/-!
# Computations that take walks

What a computation comes to is told step by step (`run_bind_ok`, `run_bind_error`), and some things
hold of a whole one as soon as they hold of its steps: it answers the same at all clocks that do not
stop it (`Steady`), a clock that stands still does not stop it (`Still`), and all its failures and
all its answers are of some kind (`FailsOnly`, `Gives`).
-/

namespace EditImpact.Files

set_option autoImplicit false

variable {Item Other : Type}

/-! ## Paths -/

section Paths

variable {files : FileSystem} {path real : Path} {why : Unresolved}

theorem real_ok (leads : files.resolve path = .ok real) : files.real path = .ok real := by
  rw [FileSystem.real, leads]
  rfl

theorem real_error (lost : files.resolve path = .error why) :
    files.real path = .error (.unresolvable why) := by
  rw [FileSystem.real, lost]
  rfl

theorem real_eq_ok_iff : files.real path = .ok real ↔ files.resolve path = .ok real := by
  cases leads : files.resolve path with
  | ok other => simp [real_ok leads]
  | error why => simp [real_error leads]

theorem real_eq_error_iff {failure : Failure} :
    files.real path = .error failure ↔
      ∃ why, files.resolve path = .error why ∧ failure = .unresolvable why := by
  cases leads : files.resolve path with
  | ok other => simp [real_ok leads]
  | error why => simp [real_error leads, eq_comm]

end Paths

/-! ## Lists of answers -/

section Lists

variable {Problem : Type} {answer : Item → Except Problem Other} {items : List Item}

theorem map_answers_ok {value : Item → Other}
    (answered : ∀ item ∈ items, answer item = .ok (value item)) :
    items.mapM answer = .ok (items.map value) := by
  induction items with
  | nil => rfl
  | cons item items induction =>
      obtain ⟨here, later⟩ := List.forall_mem_cons.mp answered
      rw [List.mapM_cons, here, induction later]
      rfl

/-- All were answered if an answer to all was found, and these are the answers. -/
theorem mem_of_map_answers {found : List Other} (answered : items.mapM answer = .ok found)
    (value : Other) : value ∈ found ↔ ∃ item ∈ items, answer item = .ok value := by
  induction items generalizing found with
  | nil =>
      cases answered
      simp
  | cons item items induction =>
      rw [List.mapM_cons] at answered
      cases here : answer item with
      | error problem =>
          rw [here] at answered
          cases answered
      | ok first =>
          rw [here] at answered
          cases later : items.mapM answer with
          | error problem =>
              rw [later] at answered
              cases answered
          | ok rest =>
              rw [later] at answered
              cases answered
              rw [List.mem_cons, induction later, List.exists_mem_cons_iff, here]
              simp [eq_comm]

theorem problem_of_map_answers {problem : Problem} (failed : items.mapM answer = .error problem) :
    ∃ item ∈ items, answer item = .error problem := by
  induction items with
  | nil => cases failed
  | cons item items induction =>
      rw [List.mapM_cons] at failed
      cases here : answer item with
      | error other =>
          rw [here] at failed
          cases failed
          exact ⟨item, List.mem_cons_self, here⟩
      | ok first =>
          rw [here] at failed
          cases later : items.mapM answer with
          | error other =>
              rw [later] at failed
              cases failed
              obtain ⟨found, member, same⟩ := induction later
              exact ⟨found, List.mem_cons_of_mem item member, same⟩
          | ok rest =>
              rw [later] at failed
              cases failed

theorem map_answers_exist (answered : ∀ item ∈ items, ∃ value, answer item = .ok value) :
    ∃ found, items.mapM answer = .ok found := by
  cases whole : items.mapM answer with
  | ok found => exact ⟨found, rfl⟩
  | error problem =>
      obtain ⟨item, member, failed⟩ := problem_of_map_answers whole
      obtain ⟨value, found⟩ := answered item member
      rw [failed] at found
      cases found

end Lists

namespace Timed

/-! ## One step after the other -/

section Steps

variable {timed : Timed Item} {next : Item → Timed Other} {clock later : Clock} {stopped : Bool}

theorem run_pure (item : Item) : (pure item : Timed Item).run clock = ⟨.ok item, false, clock⟩ :=
  rfl

theorem run_bind_ok {item : Item} (first : timed.run clock = ⟨.ok item, stopped, later⟩) :
    (timed >>= next).run clock =
      { (next item).run later with stopped := stopped || ((next item).run later).stopped } := by
  show (Timed.bind timed next).run clock = _
  simp only [Timed.bind, first]

theorem run_bind_error {failure : Failure}
    (first : timed.run clock = ⟨.error failure, stopped, later⟩) :
    (timed >>= next).run clock = ⟨.error failure, stopped, later⟩ := by
  show (Timed.bind timed next).run clock = _
  simp only [Timed.bind, first]

theorem lift_eq_told (answer : Except Failure Item) : (liftM answer : Timed Item) = told answer := rfl

theorem told_ok_bind (item : Item) : (told (.ok item) >>= next) = next item := by
  show Timed.bind _ next = _
  simp [Timed.bind, told]

/-- A computation that was not stopped was not stopped at its first step. -/
theorem not_stopped_first (inTime : ((timed >>= next).run clock).stopped = false) :
    (timed.run clock).stopped = false := by
  rcases first : timed.run clock with ⟨failure | item, stopped, later⟩
  · rwa [run_bind_error first] at inTime
  · rw [run_bind_ok first] at inTime
    exact (Bool.or_eq_false_iff.mp inTime).1

/-- The steps of a computation that was not stopped. -/
theorem run_bind_in_time (inTime : ((timed >>= next).run clock).stopped = false) :
    (∃ failure later, timed.run clock = ⟨.error failure, false, later⟩ ∧
      (timed >>= next).run clock = ⟨.error failure, false, later⟩) ∨
    ∃ item later, timed.run clock = ⟨.ok item, false, later⟩ ∧
      (timed >>= next).run clock = (next item).run later := by
  have inTimeFirst := not_stopped_first inTime
  rcases first : timed.run clock with ⟨failure | item, stopped, later⟩
  · rw [first] at inTimeFirst
    cases inTimeFirst
    exact .inl ⟨failure, later, rfl, run_bind_error first⟩
  · rw [first] at inTimeFirst
    cases inTimeFirst
    refine .inr ⟨item, later, rfl, ?_⟩
    rw [run_bind_ok first]
    simp only [Bool.false_or]

end Steps

/-! ## The same at every clock -/

/-- The answer is the same at all clocks that do not stop the computation. -/
def Steady (timed : Timed Item) : Prop :=
  ∀ ⦃clock again : Clock⦄, (timed.run clock).stopped = false → (timed.run again).stopped = false →
    (timed.run clock).answer = (timed.run again).answer

theorem steady_told (answer : Except Failure Item) : (told answer).Steady := fun _ _ _ _ => rfl

theorem Steady.bind {timed : Timed Item} {next : Item → Timed Other} (first : timed.Steady)
    (second : ∀ item, (next item).Steady) : (timed >>= next).Steady := by
  intro clock again inTime inTimeAgain
  have same := first (not_stopped_first inTime) (not_stopped_first inTimeAgain)
  rcases run_bind_in_time inTime with ⟨failure, later, here, whole⟩ | ⟨item, later, here, whole⟩
  · rcases run_bind_in_time inTimeAgain with
      ⟨other, after, there, wholeAgain⟩ | ⟨other, after, there, wholeAgain⟩
    · rw [here, there] at same
      rw [whole, wholeAgain]
      cases same
      rfl
    · rw [here, there] at same
      cases same
  · rcases run_bind_in_time inTimeAgain with
      ⟨other, after, there, wholeAgain⟩ | ⟨other, after, there, wholeAgain⟩
    · rw [here, there] at same
      cases same
    · rw [here, there] at same
      cases same
      rw [whole] at inTime ⊢
      rw [wholeAgain] at inTimeAgain ⊢
      exact second item inTime inTimeAgain

/-! ## At a clock that stands still -/

/-- The clock that stands still at a time does not stop the computation. -/
structure Still (time : Float) (timed : Timed Item) : Prop where
  inTime : (timed.run ⟨fun _ => time⟩).stopped = false
  clock : (timed.run ⟨fun _ => time⟩).clock = ⟨fun _ => time⟩

section Still

variable {time : Float}

theorem still_told (answer : Except Failure Item) : Still time (told answer) := ⟨rfl, rfl⟩

theorem Still.bind {timed : Timed Item} {next : Item → Timed Other} (first : Still time timed)
    (second : ∀ item, Still time (next item)) : Still time (timed >>= next) := by
  obtain ⟨inTime, same⟩ := first
  rcases here : timed.run ⟨fun _ => time⟩ with ⟨failure | item, stopped, later⟩
  · rw [here] at inTime same
    exact ⟨(congrArg Lapse.stopped (run_bind_error here)).trans inTime,
      (congrArg Lapse.clock (run_bind_error here)).trans same⟩
  · rw [here] at inTime same
    cases inTime
    cases same
    constructor
    · rw [run_bind_ok here]
      exact (second item).inTime
    · rw [run_bind_ok here]
      exact (second item).clock

/-- After a step that is not stopped, the failure of the next one is that of the whole. -/
theorem Still.bind_fails {timed : Timed Item} {next : Item → Timed Other} (first : Still time timed)
    (second : ∀ item, ∃ failure, ((next item).run ⟨fun _ => time⟩).answer = .error failure) :
    ∃ failure, ((timed >>= next).run ⟨fun _ => time⟩).answer = .error failure := by
  have same := first.clock
  rcases here : timed.run ⟨fun _ => time⟩ with ⟨failure | item, stopped, later⟩
  · exact ⟨failure, congrArg Lapse.answer (run_bind_error here)⟩
  · rw [here] at same
    cases same
    rw [run_bind_ok here]
    exact second item

end Still

/-! ## Failures -/

/-- The computation fails in no other way. -/
def FailsOnly (kind : Failure → Prop) (timed : Timed Item) : Prop :=
  ∀ clock failure, (timed.run clock).answer = .error failure → kind failure

section Failures

variable {kind : Failure → Prop}

theorem fails_only_told {answer : Except Failure Item}
    (foreseen : ∀ failure, answer = .error failure → kind failure) :
    FailsOnly kind (told answer) := fun _ => foreseen

theorem FailsOnly.bind {timed : Timed Item} {next : Item → Timed Other}
    (first : FailsOnly kind timed) (second : ∀ item, FailsOnly kind (next item)) :
    FailsOnly kind (timed >>= next) := by
  intro clock failure failed
  rcases here : timed.run clock with ⟨other | item, stopped, later⟩
  · rw [run_bind_error here] at failed
    cases failed
    exact first clock failure (congrArg Lapse.answer here)
  · rw [run_bind_ok here] at failed
    exact second item later failure failed

end Failures

/-! ## Answers -/

/-- All answers are of a kind. -/
def Gives (kind : Item → Prop) (timed : Timed Item) : Prop :=
  ∀ clock item, (timed.run clock).answer = .ok item → kind item

section Answers

variable {kind : Item → Prop}

theorem gives_any (timed : Timed Item) : Gives (fun _ => True) timed := fun _ _ _ => trivial

theorem gives_pure {item : Item} (here : kind item) : Gives kind (pure item) := by
  rintro clock _ ⟨⟩
  exact here

theorem gives_told {answer : Except Failure Item} (told : ∀ item, answer = .ok item → kind item) :
    Gives kind (Timed.told answer) := fun _ => told

theorem Gives.bind {timed : Timed Item} {next : Item → Timed Other} {later : Other → Prop}
    (first : Gives kind timed) (second : ∀ item, kind item → Gives later (next item)) :
    Gives later (timed >>= next) := by
  intro clock item answered
  rcases here : timed.run clock with ⟨failure | found, stopped, after⟩
  · rw [run_bind_error here] at answered
    cases answered
  · rw [run_bind_ok here] at answered
    exact second found (first clock found (congrArg Lapse.answer here)) after item answered

end Answers

/-! ## Walks -/

section Walks

variable {walk : Walk} {roots : List Path} {judge : Path → Except Failure Bool} {clock : Clock}

theorem run_walking :
    (walking walk roots judge).run clock =
      let (judged, later) := walk.judge clock roots judge
      ⟨judged.files.map fun files => ⟨files, judged.timedOut, judged.checks⟩, judged.timedOut,
        later⟩ := rfl

/-- A walk that is not stopped judges all that there is to meet. -/
theorem walking_in_time (inTime : ((walking walk roots judge).run clock).stopped = false) :
    ((walking walk roots judge).run clock).answer =
      (judgeFiles judge (walk.meets roots)).map fun files =>
        ⟨distinctPaths files, false, (walk.judgedAll roots judge).checks⟩ := by
  rw [run_walking] at inTime ⊢
  dsimp only at inTime ⊢
  rw [Walk.judge_in_time walk roots inTime, Walk.judged_all_files, Walk.judged_all_in_time]
  cases judgeFiles judge (walk.meets roots) <;> rfl

theorem steady_walking : (walking walk roots judge).Steady := by
  intro clock again inTime inTimeAgain
  rw [walking_in_time inTime, walking_in_time inTimeAgain]

theorem still_walking {time : Float}
    (patient : ∀ limit, walk.timeout = some limit → ¬time + limit < time) :
    Still time (walking walk roots judge) :=
  ⟨(Walk.judge_still walk roots patient judge).1, (Walk.judge_still walk roots patient judge).2⟩

/-- At a clock that stands still, a file in the first directory that cannot be judged is the end of
the walk. -/
theorem walking_stuck {time : Float} {directory path : Path}
    (patient : ∀ limit, walk.timeout = some limit → ¬time + limit < time)
    (known : directory ∈ walk.files.directories)
    (listed : path ∈ listedFiles (walk.files.entries directory))
    (stuck : ∃ failure, judge path = .error failure) :
    ∃ failure, ((walking walk (directory :: roots) judge).run ⟨fun _ => time⟩).answer =
      .error failure := by
  obtain ⟨failure, failed⟩ : ∃ failure,
      judgeFiles judge (listedFiles (walk.files.entries directory)) = .error failure := by
    cases judged : judgeFiles judge (listedFiles (walk.files.entries directory)) with
    | error failure => exact ⟨failure, rfl⟩
    | ok kept =>
        obtain ⟨problem, failed⟩ := stuck
        obtain ⟨wanted, here⟩ := judged_of_judge_files judged path listed
        rw [failed] at here
        cases here
  refine ⟨failure, ?_⟩
  rw [run_walking]
  unfold Walk.judge Walk.timed
  cases timeout : walk.timeout with
  | none =>
      dsimp only
      rw [judge_from_problem _ _ _ (by decide) known failed]
      rfl
  | some limit =>
      dsimp only
      rw [judge_from_problem _ _ _ (by simpa using patient limit timeout) known failed]
      rfl

theorem fails_only_walking {kind : Failure → Prop}
    (foreseen : ∀ path failure, judge path = .error failure → kind failure) :
    FailsOnly kind (walking walk roots judge) := by
  intro clock failure failed
  rw [run_walking] at failed
  dsimp only at failed
  cases found : (walk.judge clock roots judge).1.files with
  | ok kept =>
      rw [found] at failed
      cases failed
  | error other =>
      rw [found] at failed
      cases failed
      obtain ⟨path, same⟩ := Walk.problem_of_judge walk roots found
      exact foreseen path failure same

end Walks

end Timed

end EditImpact.Files
