import EditImpact.Proofs.Files.Traversals
import EditImpact.Proofs.Files.Walks

/-!
# Walks that judge what they meet

Judging does not change the way of a walk, so a walk that ends in time ends as without a deadline
(`Walk.judge_in_time`) and judges all that there is to meet (`Walk.judged_all_files`). Its files are
those that are judged well (`judge_files_ok`), unless one cannot be judged (`judge_files_error`). A
walk that only accepts files is one whose judgments never fail (`Walk.judge_of_accepts`).
-/

namespace EditImpact.Files

set_option autoImplicit false

variable {Problem : Type} {judge : Path → Except Problem Bool}

/-! ## Lists of files -/

section Lists

variable {path : Path} {paths : List Path} {problem : Problem}

/-- The files are judged one by one, up to the first problem. -/
theorem judge_files_cons : judgeFiles judge (path :: paths) =
    match judge path with
    | .error problem => .error problem
    | .ok wanted => (judgeFiles judge paths).map fun rest => if wanted then path :: rest else rest := by
  rw [judgeFiles]
  cases judge path with
  | error problem => rfl
  | ok wanted => cases judgeFiles judge paths <;> rfl

theorem judge_files_append (first second : List Path) :
    judgeFiles judge (first ++ second) =
      match judgeFiles judge first with
      | .error problem => .error problem
      | .ok wanted => (judgeFiles judge second).map (wanted ++ ·) := by
  induction first with
  | nil =>
      rw [List.nil_append, judgeFiles]
      cases judgeFiles judge second <;> rfl
  | cons path first induction =>
      rw [List.cons_append, judge_files_cons, judge_files_cons, induction]
      cases judge path with
      | error problem => rfl
      | ok wanted =>
          cases judgeFiles judge first with
          | error problem => rfl
          | ok kept =>
              dsimp only [Except.map]
              cases judgeFiles judge second with
              | error problem => rfl
              | ok rest => cases wanted <;> rfl

/-- If all files can be judged, those are found that are judged well. -/
theorem judge_files_ok {accept : Path → Bool} (judged : ∀ path ∈ paths, judge path = .ok (accept path)) :
    judgeFiles judge paths = .ok (paths.filter accept) := by
  induction paths with
  | nil => rfl
  | cons path paths induction =>
      obtain ⟨here, later⟩ := List.forall_mem_cons.mp judged
      rw [judge_files_cons, here, induction later]
      cases wanted : accept path <;> simp [wanted, Except.map]

/-- A problem is one with some file. -/
theorem problem_of_judge_files (failed : judgeFiles judge paths = .error problem) :
    ∃ path ∈ paths, judge path = .error problem := by
  induction paths with
  | nil => cases failed
  | cons path paths induction =>
      rw [judge_files_cons] at failed
      cases here : judge path with
      | error other =>
          rw [here] at failed
          cases failed
          exact ⟨path, List.mem_cons_self, here⟩
      | ok wanted =>
          rw [here] at failed
          cases rest : judgeFiles judge paths with
          | error other =>
              rw [rest] at failed
              cases failed
              obtain ⟨later, member, same⟩ := induction rest
              exact ⟨later, List.mem_cons_of_mem path member, same⟩
          | ok kept =>
              rw [rest] at failed
              cases failed

/-- All files could be judged if some were found. -/
theorem judged_of_judge_files {kept : List Path} (found : judgeFiles judge paths = .ok kept) :
    ∀ path ∈ paths, ∃ wanted, judge path = .ok wanted := by
  induction paths generalizing kept with
  | nil => nofun
  | cons path paths induction =>
      rw [judge_files_cons] at found
      cases here : judge path with
      | error problem =>
          rw [here] at found
          cases found
      | ok wanted =>
          rw [here] at found
          cases rest : judgeFiles judge paths with
          | error problem =>
              rw [rest] at found
              cases found
          | ok later =>
              intro other member
              rcases List.mem_cons.mp member with rfl | later
              · exact ⟨wanted, here⟩
              · exact induction rest other later

/-- If all problems are the same, one of them is enough. -/
theorem judge_files_error (some : ∃ path ∈ paths, judge path = .error problem)
    (only : ∀ path ∈ paths, ∀ other, judge path = .error other → other = problem) :
    judgeFiles judge paths = .error problem := by
  cases found : judgeFiles judge paths with
  | error other =>
      obtain ⟨path, member, failed⟩ := problem_of_judge_files found
      rw [only path member other failed]
  | ok kept =>
      obtain ⟨path, member, failed⟩ := some
      obtain ⟨wanted, judged⟩ := judged_of_judge_files found path member
      rw [failed] at judged
      cases judged

end Lists

/-! ## Walks -/

section Walks

variable (files : FileSystem) (extra : List String)

theorem listed_files_eq (entries : List Entry) :
    listedFiles entries = acceptedFiles (fun _ => true) entries := by
  simp only [listedFiles, acceptedFiles, Bool.and_true]

/-- A walk judges the files that it meets, whether a deadline stops it or not. -/
theorem judge_from_files (judge : Path → Except Problem Bool) (expired : Nat → Bool)
    (unseen : List Path) (checks : Nat) (stack : List Path) :
    (judgeFrom files extra judge expired unseen checks stack).files =
      judgeFiles judge (walkFrom files extra (fun _ => true) expired unseen checks stack).files := by
  induction unseen, checks, stack using walkFrom.induct files extra (fun _ => true) expired with
  | case1 unseen checks =>
      rw [judgeFrom, walkFrom]
      rfl
  | case2 unseen checks directory stack stopped =>
      rw [judgeFrom, if_pos stopped, walkFrom, if_pos stopped]
      rfl
  | case3 unseen checks directory stack going seen entries ih =>
      dsimp only [entries] at ih
      rw [judgeFrom, if_neg going, dif_pos seen, walkFrom, if_neg going, dif_pos seen]
      dsimp only
      rw [judge_files_append, ← listed_files_eq, ← ih]
      cases judgeFiles judge (listedFiles (files.entries directory)) <;> rfl
  | case4 unseen checks directory stack going unknown ih =>
      rw [judgeFrom, if_neg going, dif_neg unknown, walkFrom, if_neg going, dif_neg unknown]
      exact ih

/-- A walk that is not stopped before it ends, well or with a problem, ends as it does without a
deadline. -/
theorem judge_from_in_time (judge : Path → Except Problem Bool) (expired : Nat → Bool)
    (unseen : List Path) (checks : Nat) (stack : List Path)
    (inTime : (judgeFrom files extra judge expired unseen checks stack).timedOut = false) :
    judgeFrom files extra judge expired unseen checks stack =
      judgeFrom files extra judge (fun _ => false) unseen checks stack := by
  -- On the recursion of the walk, as for walks that judge nothing; a problem ends both walks.
  induction unseen, checks, stack using walkFrom.induct files extra (fun _ => true) expired with
  | case1 unseen checks => rw [judgeFrom, judgeFrom]
  | case2 unseen checks directory stack stopped =>
      rw [judgeFrom, if_pos stopped] at inTime
      cases inTime
  | case3 unseen checks directory stack going seen entries ih =>
      dsimp only [entries] at ih
      rw [judgeFrom, if_neg going, dif_pos seen] at inTime ⊢
      rw [judgeFrom, if_neg (by decide), dif_pos seen]
      dsimp only at inTime ⊢
      cases found : judgeFiles judge (listedFiles (files.entries directory)) with
      | error problem => rfl
      | ok wanted =>
          rw [found] at inTime
          dsimp only
          rw [ih inTime]
  | case4 unseen checks directory stack going unknown ih =>
      rw [judgeFrom, if_neg going, dif_neg unknown] at inTime ⊢
      rw [judgeFrom, if_neg (by decide), dif_neg unknown]
      exact ih inTime

theorem judge_from_without_deadline (judge : Path → Except Problem Bool) (unseen : List Path)
    (checks : Nat) (stack : List Path) :
    (judgeFrom files extra judge (fun _ => false) unseen checks stack).timedOut = false := by
  induction unseen, checks, stack using walkFrom.induct files extra (fun _ => true)
    (fun _ => false) with
  | case1 unseen checks => rw [judgeFrom]
  | case2 unseen checks directory stack stopped => cases stopped
  | case3 unseen checks directory stack going seen entries ih =>
      dsimp only [entries] at ih
      rw [judgeFrom, if_neg going, dif_pos seen]
      dsimp only
      split
      · rfl
      · exact ih
  | case4 unseen checks directory stack going unknown ih =>
      rw [judgeFrom, if_neg going, dif_neg unknown]
      exact ih

/-- A walk ends at a directory with a file that cannot be judged. -/
theorem judge_from_problem {judge : Path → Except Problem Bool} {expired : Nat → Bool}
    {unseen : List Path} {checks : Nat} {directory : Path} {problem : Problem} (stack : List Path)
    (going : ¬expired checks = true) (seen : directory ∈ unseen)
    (failed : judgeFiles judge (listedFiles (files.entries directory)) = .error problem) :
    judgeFrom files extra judge expired unseen checks (directory :: stack) =
      ⟨.error problem, false, checks + 1⟩ := by
  rw [judgeFrom, if_neg going, dif_pos seen]
  dsimp only
  rw [failed]

theorem judge_from_accepts (accept : Path → Bool) (expired : Nat → Bool) (unseen : List Path)
    (checks : Nat) (stack : List Path) :
    judgeFrom files extra (fun path => (.ok (accept path) : Except Problem Bool)) expired unseen
        checks stack =
      let walked := walkFrom files extra accept expired unseen checks stack
      ⟨.ok walked.files, walked.timedOut, walked.checks⟩ := by
  induction unseen, checks, stack using walkFrom.induct files extra accept expired with
  | case1 unseen checks =>
      rw [judgeFrom, walkFrom]
  | case2 unseen checks directory stack stopped =>
      rw [judgeFrom, if_pos stopped, walkFrom, if_pos stopped]
  | case3 unseen checks directory stack going seen entries ih =>
      dsimp only [entries] at ih
      have accepted : (listedFiles (files.entries directory)).filter accept =
          acceptedFiles accept (files.entries directory) := by
        simp only [listedFiles, acceptedFiles, List.filter_map, List.filter_filter]
        congr 1
        apply List.filter_congr
        intro entry _
        exact Bool.and_comm _ _
      rw [judgeFrom, if_neg going, dif_pos seen, walkFrom, if_neg going, dif_pos seen]
      dsimp only
      rw [judge_files_ok fun _ _ => rfl, ih, accepted]
      rfl
  | case4 unseen checks directory stack going unknown ih =>
      rw [judgeFrom, if_neg going, dif_neg unknown, walkFrom, if_neg going, dif_neg unknown]
      exact ih

end Walks

/-! ## Runs -/

section Runs

variable (walk : Walk) (roots : List Path)

/-- The files that a walk from the roots meets without a deadline. -/
def Walk.meets : List Path :=
  Tree.met walk.files walk.extraExcluded walk.files.directories 0 roots

/-- What a walk without a deadline comes to. -/
def Walk.judgedAll (judge : Path → Except Problem Bool) : Judged Problem :=
  let walked := judgeFrom walk.files walk.extraExcluded judge (fun _ => false)
    walk.files.directories 0 roots
  { walked with files := walked.files.map distinctPaths }

/-- All that there is to meet is judged. -/
theorem Walk.judged_all_files :
    (walk.judgedAll roots judge).files =
      (judgeFiles judge (walk.meets roots)).map distinctPaths := by
  rw [Walk.judgedAll, judge_from_files]
  rfl

theorem Walk.judged_all_in_time : (walk.judgedAll roots judge).timedOut = false :=
  judge_from_without_deadline ..

/-- The clock does nothing but say when the time is over. -/
theorem Walk.judge_expiring (clock : Clock) (judge : Path → Except Problem Bool) :
    ∃ expired : Nat → Bool, (walk.judge clock roots judge).1 =
      let walked := judgeFrom walk.files walk.extraExcluded judge expired walk.files.directories 0
        roots
      { walked with files := walked.files.map distinctPaths } := by
  unfold Walk.judge Walk.timed
  cases walk.timeout with
  | none => exact ⟨_, rfl⟩
  | some limit => exact ⟨_, rfl⟩

/-- A walk that ends in time ends as it does without a deadline. -/
theorem Walk.judge_in_time {clock : Clock}
    (inTime : (walk.judge clock roots judge).1.timedOut = false) :
    (walk.judge clock roots judge).1 = walk.judgedAll roots judge := by
  obtain ⟨expired, run⟩ := Walk.judge_expiring walk roots clock judge
  rw [run] at inTime ⊢
  rw [Walk.judgedAll, ← judge_from_in_time _ _ _ _ _ _ _ inTime]

/-- A problem with a walk is one with some file. -/
theorem Walk.problem_of_judge {clock : Clock} {problem : Problem}
    (failed : (walk.judge clock roots judge).1.files = .error problem) :
    ∃ path, judge path = .error problem := by
  obtain ⟨expired, run⟩ := Walk.judge_expiring walk roots clock judge
  rw [run] at failed
  dsimp only at failed
  rw [judge_from_files] at failed
  cases found : judgeFiles judge
      (walkFrom walk.files walk.extraExcluded (fun _ => true) expired walk.files.directories 0
        roots).files with
  | ok kept =>
      rw [found] at failed
      cases failed
  | error other =>
      rw [found] at failed
      cases failed
      obtain ⟨path, -, same⟩ := problem_of_judge_files found
      exact ⟨path, same⟩

/-- A clock that stands still stops no walk. -/
theorem Walk.judge_still {time : Float}
    (patient : ∀ limit, walk.timeout = some limit → ¬time + limit < time)
    (judge : Path → Except Problem Bool) :
    (walk.judge ⟨fun _ => time⟩ roots judge).1.timedOut = false ∧
      (walk.judge ⟨fun _ => time⟩ roots judge).2 = ⟨fun _ => time⟩ := by
  unfold Walk.judge Walk.timed
  cases timeout : walk.timeout with
  | none => exact ⟨judge_from_without_deadline .., rfl⟩
  | some limit =>
      simp only [patient limit timeout, decide_false]
      exact ⟨judge_from_without_deadline .., rfl⟩

/-- A walk that can judge all files is the walk that accepts those judged well. -/
theorem Walk.judge_of_accepts (clock : Clock) (accept : Path → Bool) :
    walk.judge clock roots (fun path => (.ok (accept path) : Except Problem Bool)) =
      let (walked, later) := walk.run clock roots accept
      (⟨.ok walked.files, walked.timedOut, walked.checks⟩, later) := by
  unfold Walk.judge Walk.run Walk.timed
  cases walk.timeout with
  | none => simp only [judge_from_accepts, Except.map]
  | some limit => simp only [judge_from_accepts, Except.map]

variable {walk roots}

/-- The files below the roots are met, and no others. -/
theorem Walk.mem_meets_iff (tree : walk.files.IsTree) {path : Path} :
    path ∈ walk.meets roots ↔
      ∃ root ∈ roots, LiesBelow walk.files walk.extraExcluded root path := by
  obtain ⟨order, traversal⟩ := tree.traversal walk.extraExcluded roots
  rw [← List.mem_eraseDups, Walk.meets, met_of_tree tree traversal 0, List.mem_eraseDups,
    traversal.mem_iff]

end Runs

end EditImpact.Files
