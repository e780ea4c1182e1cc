import EditImpact.Files.Walk
import Mathlib.Data.List.Basic
import Mathlib.Data.List.Infix

/-!
# Walks with and without a deadline

What a walk accepts does not change its way (`walk_from_accepting`), and a deadline does nothing but
stop it. So a walk that was stopped found the beginning of what it would have found without a
deadline, and a walk that was not stopped found all of it (`Walk.stopped_run_keeps_beginning`).
-/

namespace EditImpact

set_option autoImplicit false

namespace Files

/-! ## The first of equal paths -/

theorem mem_distinct_paths {path : Path} {paths : List Path} :
    path ∈ distinctPaths paths ↔ path ∈ paths := by
  induction paths with
  | nil => exact Iff.rfl
  | cons other paths induction =>
      rw [distinctPaths, List.mem_cons, List.mem_cons, List.mem_filter, induction, bne_iff_ne]
      by_cases same : path = other <;> simp [same]

theorem filter_distinct_paths (keep : Path → Bool) (paths : List Path) :
    (distinctPaths paths).filter keep = distinctPaths (paths.filter keep) := by
  induction paths with
  | nil => rfl
  | cons path paths induction =>
      rw [distinctPaths, List.filter_cons, List.filter_cons]
      have swap : ((distinctPaths paths).filter (· != path)).filter keep =
          (distinctPaths (paths.filter keep)).filter (· != path) := by
        rw [← induction, List.filter_filter, List.filter_filter]
        simp only [Bool.and_comm]
      cases kept : keep path with
      | true => simp only [if_true, distinctPaths, swap]
      | false =>
          simp only [Bool.false_eq_true, if_false, swap]
          apply List.filter_eq_self.mpr
          intro other member
          have keptToo := List.of_mem_filter (mem_distinct_paths.mp member)
          exact bne_iff_ne.mpr fun same => by simp [← same, keptToo] at kept

theorem distinct_paths_eq_erase_dups (paths : List Path) :
    distinctPaths paths = paths.eraseDups := by
  induction length : paths.length using Nat.strongRecOn generalizing paths with
  | ind count induction =>
      cases paths with
      | nil => rfl
      | cons path paths =>
          have shorter := List.length_filter_le (· != path) paths
          rw [List.length_cons] at length
          rw [distinctPaths, filter_distinct_paths, induction _ (by omega) _ rfl,
            List.eraseDups_cons]
          rfl

theorem distinct_paths_nodup (paths : List Path) : (distinctPaths paths).Nodup := by
  induction paths with
  | nil => exact List.nodup_nil
  | cons path paths induction =>
      apply List.nodup_cons.mpr
      refine ⟨?_, induction.filter _⟩
      intro again
      have other := List.of_mem_filter again
      rw [bne_self_eq_false] at other
      cases other

theorem distinct_paths_prefix {early late : List Path} (begins : early <+: late) :
    distinctPaths early <+: distinctPaths late := by
  obtain ⟨rest, rfl⟩ := begins
  rw [distinct_paths_eq_erase_dups, distinct_paths_eq_erase_dups, List.eraseDups_append]
  exact List.prefix_append _ _

theorem distinct_paths_of_nodup {paths : List Path} (distinct : paths.Nodup) :
    distinctPaths paths = paths := by
  induction paths with
  | nil => rfl
  | cons path paths induction =>
      obtain ⟨fresh, rest⟩ := List.nodup_cons.mp distinct
      rw [distinctPaths, induction rest]
      congr 1
      apply List.filter_eq_self.mpr
      intro other member
      exact bne_iff_ne.mpr fun same => fresh (same ▸ member)

/-! ## Walks -/

/-- What is accepted has no influence on where a walk goes and when it is stopped. -/
theorem walk_from_accepting (files : FileSystem) (extra : List String) (accept : Path → Bool)
    (expired : Nat → Bool) (unseen : List Path) (checks : Nat) (stack : List Path) :
    walkFrom files extra accept expired unseen checks stack =
      let walked := walkFrom files extra (fun _ => true) expired unseen checks stack
      { walked with files := walked.files.filter accept } := by
  have kept : ∀ entries, acceptedFiles accept entries =
      (acceptedFiles (fun _ => true) entries).filter accept := by
    intro entries
    simp only [acceptedFiles, List.filter_map, List.filter_filter, Bool.and_true]
    congr 1
    apply List.filter_congr
    intro entry _
    exact Bool.and_comm _ _
  induction unseen, checks, stack using walkFrom.induct files extra accept expired with
  | case1 unseen checks =>
      rw [walkFrom, walkFrom]
      rfl
  | case2 unseen checks directory stack stopped =>
      rw [walkFrom, if_pos stopped, walkFrom, if_pos stopped]
      rfl
  | case3 unseen checks directory stack going seen entries ih =>
      dsimp only [entries] at ih
      rw [walkFrom, if_neg going, dif_pos seen, walkFrom, if_neg going, dif_pos seen]
      dsimp only
      rw [ih, List.filter_append, ← kept]
  | case4 unseen checks directory stack going unknown ih =>
      rw [walkFrom, if_neg going, dif_neg unknown, walkFrom, if_neg going, dif_neg unknown]
      exact ih

theorem walk_from_in_time (files : FileSystem) (extra : List String) (accept : Path → Bool)
    (expired : Nat → Bool) (unseen : List Path) (checks : Nat) (stack : List Path)
    (inTime : (walkFrom files extra accept expired unseen checks stack).timedOut = false) :
    walkFrom files extra accept expired unseen checks stack =
      walkFrom files extra accept (fun _ => false) unseen checks stack := by
  -- On the recursion of the walk: the time was not over at the first check, and the rest of the
  -- walk was in time as well.
  induction unseen, checks, stack using walkFrom.induct files extra accept expired with
  | case1 unseen checks => rw [walkFrom, walkFrom]
  | case2 unseen checks directory stack stopped =>
      rw [walkFrom, if_pos stopped] at inTime
      cases inTime
  | case3 unseen checks directory stack going seen entries ih =>
      rw [walkFrom, if_neg going, dif_pos seen] at inTime
      have rest := ih inTime
      dsimp only [entries] at rest
      rw [walkFrom, if_neg going, dif_pos seen, walkFrom, if_neg (by decide), dif_pos seen]
      dsimp only
      rw [rest]
  | case4 unseen checks directory stack going unknown ih =>
      rw [walkFrom, if_neg going, dif_neg unknown] at inTime
      have rest := ih inTime
      rw [walkFrom, if_neg going, dif_neg unknown, walkFrom, if_neg (by decide), dif_neg unknown,
        rest]

theorem walk_from_without_deadline (files : FileSystem) (extra : List String)
    (accept : Path → Bool) (unseen : List Path) (checks : Nat) (stack : List Path) :
    (walkFrom files extra accept (fun _ => false) unseen checks stack).timedOut = false := by
  induction unseen, checks, stack using walkFrom.induct files extra accept (fun _ => false) with
  | case1 unseen checks => rw [walkFrom]
  | case2 unseen checks directory stack stopped => cases stopped
  | case3 unseen checks directory stack going seen entries ih =>
      rw [walkFrom, if_neg going, dif_pos seen]
      exact ih
  | case4 unseen checks directory stack going unknown ih =>
      rw [walkFrom, if_neg going, dif_neg unknown]
      exact ih

theorem walk_from_stopped (files : FileSystem) (extra : List String) (accept : Path → Bool)
    (expired : Nat → Bool) (unseen : List Path) (checks : Nat) (stack : List Path) :
    (walkFrom files extra accept expired unseen checks stack).files <+:
      (walkFrom files extra accept (fun _ => false) unseen checks stack).files := by
  -- On the recursion of the walk that may be stopped: up to there both enter the same directories.
  induction unseen, checks, stack using walkFrom.induct files extra accept expired with
  | case1 unseen checks =>
      rw [walkFrom]
      exact List.nil_prefix
  | case2 unseen checks directory stack stopped =>
      rw [walkFrom, if_pos stopped]
      exact List.nil_prefix
  | case3 unseen checks directory stack going seen entries ih =>
      dsimp only [entries] at ih
      rw [walkFrom, if_neg going, dif_pos seen, walkFrom, if_neg (by decide), dif_pos seen]
      exact (List.prefix_append_right_inj _).mpr ih
  | case4 unseen checks directory stack going unknown ih =>
      rw [walkFrom, if_neg going, dif_neg unknown, walkFrom, if_neg (by decide), dif_neg unknown]
      exact ih

/-- The clock does nothing but say when the time is over. -/
theorem Walk.run_expiring (walk : Walk) (clock : Clock) (roots : List Path)
    (accept : Path → Bool) :
    ∃ expired : Nat → Bool, (walk.timeout = none → expired = fun _ => false) ∧
      (walk.run clock roots accept).1 =
        let walked := walkFrom walk.files walk.extraExcluded accept expired walk.files.directories 0
          roots
        { walked with files := distinctPaths walked.files } := by
  unfold Walk.run Walk.timed
  cases walk.timeout with
  | none => exact ⟨_, fun _ => rfl, rfl⟩
  | some limit => exact ⟨_, nofun, rfl⟩

/-- Whatever the clock says, a walk with a timeout finds the beginning of what it finds without one,
and all of it unless it was stopped. -/
theorem Walk.stopped_run_keeps_beginning (walk : Walk) (clock again : Clock) (roots : List Path)
    (accept : Path → Bool) :
    let whole := ({ walk with timeout := none }.run again roots accept).1
    let stopped := (walk.run clock roots accept).1
    whole.timedOut = false ∧ stopped.files <+: whole.files ∧
      (stopped.timedOut = false → stopped.files = whole.files) := by
  intro whole stopped
  obtain ⟨never, untimed, wholeRun⟩ := Walk.run_expiring { walk with timeout := none } again roots
    accept
  obtain ⟨expired, -, stoppedRun⟩ := Walk.run_expiring walk clock roots accept
  rw [untimed rfl] at wholeRun
  refine ⟨?ends, ?begins, ?all⟩
  case ends =>
    rw [show whole = _ from wholeRun]
    exact walk_from_without_deadline ..
  case begins =>
    rw [show whole = _ from wholeRun, show stopped = _ from stoppedRun]
    exact distinct_paths_prefix (walk_from_stopped ..)
  case all =>
    intro inTime
    rw [show stopped = _ from stoppedRun] at inTime
    rw [show whole = _ from wholeRun, show stopped = _ from stoppedRun]
    dsimp only at inTime ⊢
    rw [walk_from_in_time _ _ _ _ _ _ _ inTime]

end Files

end EditImpact
