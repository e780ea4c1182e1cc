import EditImpact.Impact.Downstream
import EditImpact.Proofs.Files.Lapses

/-!
# Size limits that are no number of bytes

Where all paths lead somewhere, a walk fails over such a limit as soon as it meets a wanted file of
known size (`walking_met`), and only then (`judge_other_clear`).
-/

namespace EditImpact.Impact

open Files Timed

set_option autoImplicit false

/-- The file is not known to be too large. -/
def Small (files : FileSystem) (scan : Settings.Scan) (path : Path) : Prop :=
  ∀ size, files.size path = some size → ∃ limit, scan.byteLimit = some limit ∧ size ≤ limit

/-- The file lies below one of the roots. -/
def Within (files : FileSystem) (scan : Settings.Scan) (roots : List Path) (path : Path) : Prop :=
  ∃ root ∈ roots, LiesBelow files scan.extraExcluded root path

/-- Another file than the source, with a fitting name. -/
def isOther (files : FileSystem) (named : Path → Bool) (source path : Path) : Bool :=
  match files.resolve path with
  | .ok real => real != source && named path
  | .error _ => false

/-- The size of a wanted file has to be compared with a limit that is no number of bytes. -/
def LimitMet (files : FileSystem) (scan : Settings.Scan) (roots : List Path)
    (wanted : Path → Bool) : Prop :=
  scan.byteLimit = none ∧ ∃ path, Within files scan roots path ∧ wanted path = true ∧
    ∃ size, files.size path = some size

def isSmall (files : FileSystem) (scan : Settings.Scan) (path : Path) : Bool :=
  (files.size path).all fun size => scan.byteLimit.any (size ≤ ·)

variable {files : FileSystem} {scan : Settings.Scan} {roots more : List Path}
  {named wanted : Path → Bool} {source path : Path}

theorem is_small_iff : isSmall files scan path = true ↔ Small files scan path := by
  unfold isSmall Small
  cases files.size path with
  | none => simp
  | some size => simp [Option.any_eq_true]

theorem Within.wider (larger : ∀ root ∈ roots, root ∈ more)
    (within : Within files scan roots path) : Within files scan more path := by
  obtain ⟨root, listed, below⟩ := within
  exact ⟨root, larger root listed, below⟩

theorem within_congr (same : ∀ root, root ∈ roots ↔ root ∈ more) :
    Within files scan roots path ↔ Within files scan more path :=
  ⟨.wider fun root => (same root).mp, .wider fun root => (same root).mpr⟩

theorem within_singleton {root : Path} :
    Within files scan [root] path ↔ LiesBelow files scan.extraExcluded root path := by
  simp [Within]

theorem LimitMet.wider (larger : ∀ root ∈ roots, root ∈ more)
    (met : LimitMet files scan roots wanted) : LimitMet files scan more wanted := by
  obtain ⟨uncountable, path, within, measured⟩ := met
  exact ⟨uncountable, path, within.wider larger, measured⟩

/-! ## One file -/

theorem limit_countable {limit : Nat} (countable : scan.byteLimit = some limit) :
    scan.limit = .ok limit := by
  rw [Settings.Scan.limit, countable]

theorem limit_uncountable (uncountable : scan.byteLimit = none) :
    scan.limit = .error (.limitUncountable (.ofFloat scan.sizeLimit)) := by
  rw [Settings.Scan.limit, uncountable]

theorem limit_eq_error_iff {failure : Failure} :
    scan.limit = .error failure ↔
      scan.byteLimit = none ∧ failure = .limitUncountable (.ofFloat scan.sizeLimit) := by
  cases counted : scan.byteLimit with
  | none => simp [limit_uncountable counted, eq_comm]
  | some limit => simp [limit_countable counted]

theorem judge_other_of_real {real : Path} (leads : files.resolve path = .ok real) :
    judgeOther files scan named source path =
      if isOther files named source path then scan.admits (files.size path) else .ok false := by
  rw [judgeOther, real_ok leads, isOther, leads]
  rfl

theorem admits_eq_error_iff {size : Option Nat} {failure : Failure} :
    scan.admits size = .error failure ↔
      (∃ known, size = some known) ∧ scan.limit = .error failure := by
  cases size with
  | none => simp [Settings.Scan.admits]
  | some size =>
      rw [Settings.Scan.admits]
      cases scan.limit with
      | error other =>
          constructor
          · rintro ⟨⟩
            exact ⟨⟨size, rfl⟩, rfl⟩
          · rintro ⟨-, ⟨⟩⟩
            rfl
      | ok limit => exact ⟨nofun, nofun⟩

/-- A file whose path leads somewhere can only fail to be judged over the limit. -/
theorem judge_other_failure {failure : Failure} {real : Path}
    (leads : files.resolve path = .ok real)
    (failed : judgeOther files scan named source path = .error failure) :
    isOther files named source path = true ∧ (∃ size, files.size path = some size) ∧
      scan.byteLimit = none ∧ failure = .limitUncountable (.ofFloat scan.sizeLimit) := by
  rw [judge_other_of_real leads] at failed
  split at failed
  · next other =>
      obtain ⟨measured, limit⟩ := admits_eq_error_iff.mp failed
      exact ⟨other, measured, limit_eq_error_iff.mp limit⟩
  · nomatch failed

/-- Unless the limit is met, other small files with fitting names are judged well. -/
theorem judge_other_clear (clear : ¬LimitMet files scan roots (isOther files named source))
    {real : Path} (leads : files.resolve path = .ok real)
    (within : Within files scan roots path) :
    judgeOther files scan named source path =
      .ok (isOther files named source path && isSmall files scan path) := by
  rw [judge_other_of_real leads]
  cases other : isOther files named source path with
  | false => rfl
  | true =>
      rw [if_pos rfl, Bool.true_and, isSmall]
      cases size : files.size path with
      | none => rfl
      | some bytes =>
          cases counted : scan.byteLimit with
          | none => exact (clear ⟨counted, path, within, other, bytes, size⟩).elim
          | some limit =>
              rw [Settings.Scan.admits, limit_countable counted]
              rfl

/-! ## Walks -/

section Walks

variable {clock : Clock}
  (meets : ∀ path, path ∈ (walkWith files scan).meets roots ↔ Within files scan roots path)
  (resolved : ∀ path, Within files scan roots path → ∃ real, files.resolve path = .ok real)

include meets resolved

theorem walking_met (met : LimitMet files scan roots (isOther files named source))
    (inTime : ((walking (walkWith files scan) roots
      (judgeOther files scan named source)).run clock).stopped = false) :
    ((walking (walkWith files scan) roots (judgeOther files scan named source)).run clock).answer =
      .error (.limitUncountable (.ofFloat scan.sizeLimit)) := by
  obtain ⟨uncountable, path, within, other, size, measured⟩ := met
  rw [walking_in_time inTime, judge_files_error]
  · rfl
  · obtain ⟨real, leads⟩ := resolved path within
    refine ⟨path, (meets path).mpr within, ?_⟩
    rw [judge_other_of_real leads, if_pos other]
    exact admits_eq_error_iff.mpr ⟨⟨size, measured⟩, limit_uncountable uncountable⟩
  · intro path member failure failed
    obtain ⟨real, leads⟩ := resolved path ((meets path).mp member)
    exact (judge_other_failure leads failed).2.2.2

theorem walking_clear (clear : ¬LimitMet files scan roots (isOther files named source))
    (inTime : ((walking (walkWith files scan) roots
      (judgeOther files scan named source)).run clock).stopped = false) :
    ∃ checks, ((walking (walkWith files scan) roots
        (judgeOther files scan named source)).run clock).answer =
      .ok ⟨distinctPaths (((walkWith files scan).meets roots).filter fun path =>
        isOther files named source path && isSmall files scan path), false, checks⟩ := by
  rw [walking_in_time inTime, judge_files_ok]
  · exact ⟨_, rfl⟩
  · intro path member
    have within := (meets path).mp member
    obtain ⟨real, leads⟩ := resolved path within
    exact judge_other_clear clear leads within

end Walks

end EditImpact.Impact
