import EditImpact.Proofs.Baseline.Attempts
import EditImpact.Proofs.Text.CodePoints

/-!
# What a resolution does to the snapshots

Only baselines from version control are ever cached for it, so the kind of a baseline tells which
way a resolution went, also when the cache answered. Where snapshots are kept there are four ways,
and `Settles` says for each of them what the baseline is and which snapshot is left behind.
-/

namespace EditImpact.Baseline

set_option autoImplicit false

/-- Every cached baseline is from version control. -/
def AllVersioned (refs : RefCache) : Prop :=
  ∀ key entry, Store.get? refs key = some entry →
    entry.baseline.resolution.kind.isVersioned = true

theorem all_versioned_empty : AllVersioned {} := by
  intro key entry stored
  cases stored

theorem all_versioned_discard_path {refs : RefCache} (versioned : AllVersioned refs)
    (path : String) : AllVersioned (refs.discardPath path) := by
  intro key entry stored
  rw [RefCache.get_discard_path] at stored
  split at stored
  · cases stored
  · exact versioned key entry stored

theorem made_versioned {settings : Settings.Baseline} {vcs : Option Vcs} {request : Request}
    {key : RefKey} {entry : RefEntry} (made : Made settings vcs request key entry) :
    entry.baseline.resolution.kind.isVersioned = true := by
  rcases made with ancestor | atHead
  · obtain ⟨client, found, -, -, -, -, -, baseline⟩ := ancestor
    rw [baseline]
    rfl
  · obtain ⟨client, found, skipped, -, -, -, -, -, baseline⟩ := atHead
    rw [baseline]
    rfl

section Attempts

variable {settings : Settings.Baseline} {vcs : Option Vcs} {refs : RefCache} {request : Request}
  {baseline : Resolved}

theorem held_versioned (versioned : AllVersioned refs) {key : RefKey} {head : String}
    (held : refs.held key head = some baseline) : baseline.resolution.kind.isVersioned = true :=
  versioned key ⟨head, baseline⟩ ((refs.held_eq_some_iff key head baseline).mp held)

theorem merge_base_attempt_versioned (versioned : AllVersioned refs)
    (answered : (mergeBaseAttempt settings vcs refs request).1 = .ok baseline) :
    baseline.resolution.kind.isVersioned = true := by
  obtain ⟨client, head, -, -, held | ⟨found, -, rfl⟩⟩ := merge_base_attempt_answered answered
  · exact held_versioned versioned held
  · rfl

theorem head_attempt_versioned (versioned : AllVersioned refs) {skipped : Option Skip}
    (answered : (headAttempt settings vcs refs request skipped).1 = .ok baseline) :
    baseline.resolution.kind.isVersioned = true := by
  obtain ⟨client, head, -, -, held | ⟨found, -, rfl⟩⟩ := head_attempt_answered answered
  · exact held_versioned versioned held
  · rfl

end Attempts

/-- The ways to a baseline, and the snapshots left behind where snapshots are kept. -/
inductive Settles (files : Files.FileSystem) (snapshots : Snapshots) (request : Request)
    (baseline : Resolved) (after : Snapshots) : Prop where
  | versioned (kind : baseline.resolution.kind.isVersioned = true) (left : after = snapshots)
  | existing (skip : Skip) (text : Text.Given)
    (held : snapshots.get? request.path.toString = some text)
    (taken : baseline =
      { text := text
        resolution := { kind := .snapshot, available := true, reason := some (.fallback skip) } })
    (left : after = snapshots)
  | disk (skip : Skip) (text : List Char)
    (missing : snapshots.get? request.path.toString = none)
    (read : files.read request.path = .ok text) (taken : baseline = fromDisk request skip text)
    (left : after = snapshots.put request.path.toString (Text.given text))
  | itself (problem : Option String) (missing : snapshots.get? request.path.toString = none)
    (read : files.read request.path = .error problem)
    (taken : baseline =
      { text := Text.given request.current
        resolution :=
          { kind := .none, available := false
            reason := some (.skipped (.diskProblem (readProblem problem))) }
        isEmpty := true })
    (left : after = snapshots.put request.path.toString (Text.given request.current))

namespace Settles

variable {files : Files.FileSystem} {snapshots after : Snapshots} {request : Request}
  {baseline : Resolved}

/-- Whoever has a snapshot and no baseline from version control is compared with the snapshot. -/
theorem eq_existing (settled : Settles files snapshots request baseline after)
    (kind : baseline.resolution.kind.isVersioned = false) {old : Text.Given}
    (held : snapshots.get? request.path.toString = some old) :
    baseline = ⟨old, baseline.resolution, false⟩ := by
  cases settled with
  | versioned known left =>
      rw [known] at kind
      cases kind
  | existing skip text there taken left =>
      rw [held] at there
      cases there
      rw [taken]
  | disk skip text missing read taken left =>
      rw [held] at missing
      cases missing
  | itself problem missing read taken left =>
      rw [held] at missing
      cases missing

theorem left_of_versioned (settled : Settles files snapshots request baseline after)
    (kind : baseline.resolution.kind.isVersioned = true) : after = snapshots := by
  cases settled with
  | versioned known left => exact left
  | existing skip text held taken left => exact left
  | disk skip text missing read taken left =>
      rw [taken] at kind
      cases kind
  | itself problem missing read taken left =>
      rw [taken] at kind
      cases kind

/-- The guards' reasons are not those of a resolution. -/
theorem reason_ne (settled : Settles files snapshots request baseline after)
    (kind : baseline.resolution.kind.isVersioned = false) :
    baseline.resolution.reason ≠ some .binaryFile ∧
      baseline.resolution.reason ≠ some .fileTooLarge := by
  cases settled with
  | versioned known left =>
      rw [known] at kind
      cases kind
  | existing skip text held taken left => simp [taken]
  | disk skip text missing read taken left => simp [taken, fromDisk]
  | itself problem missing read taken left => simp [taken]

end Settles

section Resolutions

variable {settings : Settings.Baseline} {around : Surroundings} {caches : Caches}
  {request : Request}

theorem without_git_settles (keeps : settings.keepSnapshots = true) (files : Files.FileSystem)
    (caches : Caches) (skip : Skip) :
    Settles files caches.snapshots request (withoutGit settings files caches request skip).1
      (withoutGit settings files caches request skip).2.snapshots := by
  simp only [withoutGit, withoutSnapshot, Caches.remember, keeps, if_true]
  cases held : caches.snapshots.get? request.path.toString with
  | some text => exact .existing skip text held rfl rfl
  | none =>
      cases read : files.read request.path with
      | ok text => exact .disk skip text held read rfl rfl
      | error problem => exact .itself problem held read rfl rfl

theorem after_head_settles (keeps : settings.keepSnapshots = true) (files : Files.FileSystem)
    (snapshots : Snapshots) {attempt : Except Skip Resolved × RefCache}
    (versioned : ∀ baseline, attempt.1 = .ok baseline →
      baseline.resolution.kind.isVersioned = true) :
    Settles files snapshots request (afterHead settings files snapshots request attempt).1
      (afterHead settings files snapshots request attempt).2.snapshots := by
  obtain ⟨outcome, refs⟩ := attempt
  cases outcome with
  | ok baseline => exact .versioned (versioned baseline rfl) rfl
  | error skip => exact without_git_settles keeps files ⟨snapshots, refs⟩ skip

/-- A resolution goes one of the four ways. -/
theorem resolve_settles (keeps : settings.keepSnapshots = true)
    (versioned : AllVersioned caches.refs) :
    Settles around.files caches.snapshots request (resolve settings around caches request).baseline
      (resolve settings around caches request).caches.snapshots := by
  change Settles around.files caches.snapshots request
    (resolve settings around caches request).result.1
    (resolve settings around caches request).result.2.snapshots
  cases mode : request.mode with
  | «local» =>
      rw [resolve_local settings around caches request mode]
      exact after_head_settles keeps _ _ fun _ => head_attempt_versioned versioned
  | pr =>
      rw [resolve_pr settings around caches request mode]
      rcases attempted : mergeBaseAttempt settings around.vcs caches.refs request with
        ⟨outcome, refs⟩
      cases outcome with
      | ok baseline =>
          have first := congrArg Prod.fst attempted
          exact .versioned (merge_base_attempt_versioned versioned first) rfl
      | error skip =>
          have kept : AllVersioned refs := by
            intro key entry stored
            rcases get_merge_base_attempt mode (by rw [attempted]; exact stored) with before | made
            · exact versioned key entry before
            · exact made_versioned (.inl made)
          exact after_head_settles keeps _ _ fun _ => head_attempt_versioned kept

theorem resolve_versioned (versioned : AllVersioned caches.refs) :
    AllVersioned (resolve settings around caches request).caches.refs := by
  intro key entry stored
  rcases get_resolve stored with before | made
  · exact versioned key entry before
  · exact made_versioned made

end Resolutions

section Recording

variable {settings : Settings.Baseline} {outcome : Outcome}

theorem recorded_refs (settings : Settings.Baseline) (path : Path) (current : List Char)
    (outcome : Outcome) : (recorded settings path current outcome).refs = outcome.caches.refs := by
  unfold recorded
  split
  · rfl
  · exact record_refs _ _ _ _ _

theorem recorded_of_versioned (path : Path) (current : List Char)
    (kind : outcome.baseline.resolution.kind.isVersioned = true) :
    recorded settings path current outcome = outcome.caches := by
  unfold recorded record
  cases held : outcome.baseline.resolution.kind <;> simp [held, RefKind.isVersioned] at kind ⊢

theorem recorded_of_same {current : List Char} (path : Path)
    (same : outcome.baseline.isEmpty = true ∨ outcome.baseline.text = Text.given current) :
    recorded settings path current outcome = outcome.caches := by
  simp [recorded, Resolved.isIdle, same]

theorem recorded_of_different (keeps : settings.keepSnapshots = true) {current : List Char}
    (path : Path) (kind : outcome.baseline.resolution.kind = .snapshot)
    (comparable : outcome.baseline.isEmpty = false) (different : outcome.baseline.text ≠ Text.given current) :
    (recorded settings path current outcome).snapshots =
      outcome.caches.snapshots.put path.toString (Text.given current) := by
  simp [recorded, Resolved.isIdle, comparable, different, record, kind, Caches.remember, keeps]

/-- Whatever a baseline without version control is, the current text is the snapshot afterwards. -/
theorem get_recorded (keeps : settings.keepSnapshots = true) {files : Files.FileSystem}
    {snapshots : Snapshots} {request : Request}
    (settled : Settles files snapshots request outcome.baseline outcome.caches.snapshots)
    (kind : outcome.baseline.resolution.kind.isVersioned = false) (name : String) :
    (recorded settings request.path request.current outcome).snapshots.get? name =
      if name = request.path.toString then some (Text.given request.current)
      else snapshots.get? name := by
  cases settled with
  | versioned known left =>
      rw [known] at kind
      cases kind
  | existing skip text held taken left =>
      by_cases same : text = Text.given request.current
      · -- Nothing is recorded, but the snapshot already is the current text.
        rw [recorded_of_same _ (.inr (by rw [taken]; exact same)), left]
        split
        · next here => rw [here, held, same]
        · rfl
      · rw [recorded_of_different keeps _ (by rw [taken]) (by rw [taken])
          (by rw [taken]; exact same), left, Store.get_put]
  | disk skip text missing read taken left =>
      by_cases same : text = request.current
      · rw [recorded_of_same _ (.inr (by rw [taken, fromDisk, same])), left, Store.get_put, same]
      · -- The text on disk was kept first and gives way to the current one.
        have comparable : outcome.baseline.isEmpty = false := by
          rw [taken]
          simp [fromDisk, same]
        rw [recorded_of_different keeps _ (by rw [taken]; rfl) comparable
          (by rw [taken]; exact Text.given_inj.not.mpr same), left, Store.get_put, Store.get_put]
        split <;> rfl
  | itself problem missing read taken left =>
      rw [recorded_of_same _ (.inl (by rw [taken])), left, Store.get_put]

end Recording

end EditImpact.Baseline
