import EditImpact.Proofs.Baseline.Attempts
import EditImpact.Proofs.Text.CodePoints

/-!
# The chain of sources

Five sources can have the text before an edit. Each is described on its own, by `offer`, and the
chain of a mode only says in which order they count. With nothing cached from version control, a
resolution takes the first source of the chain that is available, and the reasons it gives are those
of the sources before it.
-/

namespace EditImpact.Baseline

set_option autoImplicit false

/-- Where a baseline can come from. -/
inductive Source where
  | mergeBase
  | head
  | snapshot
  | disk
  | itself
  deriving DecidableEq, Repr

namespace Source

/-- The sources of a mode, in the order in which they count. -/
def chain : Settings.Mode → List Source
  | .local => [head, snapshot, disk, itself]
  | .pr => [mergeBase, head, snapshot, disk, itself]

def kind : Source → RefKind
  | mergeBase => .mergeBase
  | head => .head
  | snapshot | disk => .snapshot
  | itself => .none

def refName (target : String) : Source → Option String
  | mergeBase => some target
  | head => some "HEAD"
  | snapshot | disk | itself => none

/-- The first source of a list that passes a test. -/
def IsFirst (available : Source → Prop) : List Source → Source → Prop
  | [], _ => False
  | other :: rest, source =>
    (other = source ∧ available other) ∨ (¬available other ∧ IsFirst available rest source)

theorem is_first_here {available : Source → Prop} {source : Source} (rest : List Source)
    (here : available source) : IsFirst available (source :: rest) source :=
  .inl ⟨rfl, here⟩

theorem is_first_later {available : Source → Prop} {skipped source : Source} {rest : List Source}
    (missing : ¬available skipped) (later : IsFirst available rest source) :
    IsFirst available (skipped :: rest) source :=
  .inr ⟨missing, later⟩

end Source

/-- Why a source that has no offer is passed over. -/
def skipOf : Except Skip Offer → Option Skip
  | .error skip => some skip
  | .ok _ => none

/-- What version control has at its head, if it may and can be asked. -/
def gitOffer (settings : Settings.Baseline) (vcs : Option Vcs)
    (ask : Vcs → String → Except Skip Offer) : Except Skip Offer :=
  match gitSource settings vcs with
  | .error skip => .error skip
  | .ok vcs => vcs.headId.bind (ask vcs)

section Offers

variable (settings : Settings.Baseline) (around : Surroundings) (snapshots : Snapshots)
  (request : Request)

/-- What each source has, whatever the others have. -/
def offer : Source → Except Skip Offer
  | .mergeBase =>
    gitOffer settings around.vcs fun vcs _ => vcs.mergeBaseOffer request.path request.target
  | .head => gitOffer settings around.vcs fun vcs head => vcs.headOffer request.path head
  | .snapshot =>
    if settings.keepSnapshots then
      match snapshots.get? request.path.toString with
      | some text => .ok ⟨text, none⟩
      | none => .error .noSnapshot
    else .error .cacheDisabled
  | .disk =>
    match around.files.read request.path with
    | .ok text => .ok ⟨Text.given text, none⟩
    | .error message => .error (.diskProblem (readProblem message))
  | .itself => .ok ⟨Text.given request.current, none⟩

/-- When a source is available, in terms of what surrounds the file. -/
def Available : Source → Prop
  | .mergeBase =>
    settings.useGit = true ∧ ∃ vcs, around.vcs = some vcs ∧
      (∃ head, vcs.currentRef = .ok (some head)) ∧
      ∃ base text, vcs.mergeBase request.target = .ok (some base) ∧
        vcs.readAt request.path base = .ok (some text)
  | .head =>
    settings.useGit = true ∧ ∃ vcs, around.vcs = some vcs ∧
      ∃ head, vcs.currentRef = .ok (some head) ∧ vcs.isTracked request.path = .ok true ∧
        ∃ text, vcs.readAt request.path head = .ok (some text)
  | .snapshot =>
    settings.keepSnapshots = true ∧ ∃ text, snapshots.get? request.path.toString = some text
  | .disk => ∃ text, around.files.read request.path = .ok text
  | .itself => True

/-- Why a source was taken: what stood in the way of those before it. -/
def Source.reason : Source → Option Reason
  | .mergeBase => none
  | .head =>
    match request.mode with
    | .local => none
    | .pr => (skipOf (offer settings around snapshots request .mergeBase)).map .skipped
  | .snapshot | .disk => (skipOf (offer settings around snapshots request .head)).map .fallback
  | .itself => (skipOf (offer settings around snapshots request .disk)).map .skipped

/-- The baseline that a source gives. -/
def Source.baseline (source : Source) (found : Offer) : Resolved where
  text := found.text
  resolution :=
    { kind := source.kind, available := source != .itself
      refName := source.refName request.target, commit := found.commit
      reason := source.reason settings around snapshots request }
  isEmpty := source == .itself || (source == .disk && found.text == Text.given request.current)

/-- The snapshots after a resolution: a text that was first seen now is kept, if texts are kept. -/
def Source.seeded (source : Source) (found : Offer) : Snapshots :=
  if settings.keepSnapshots && (source == .disk || source == .itself) then
    snapshots.put request.path.toString found.text
  else snapshots

end Offers

theorem git_offer_eq_ok_iff (settings : Settings.Baseline) (vcs : Option Vcs)
    (ask : Vcs → String → Except Skip Offer) (found : Offer) :
    gitOffer settings vcs ask = .ok found ↔
      settings.useGit = true ∧ ∃ client, vcs = some client ∧
        ∃ head, client.currentRef = .ok (some head) ∧ ask client head = .ok found := by
  unfold gitOffer gitSource
  cases settings.useGit with
  | false => simp
  | true =>
      cases vcs with
      | none => simp
      | some client =>
          simp only [if_true, true_and, Option.some.injEq, exists_eq_left']
          unfold Vcs.headId
          rcases client.currentRef with message | _ | head <;> simp [required, Except.bind]

/-- A source has an offer exactly when it is available. -/
theorem offer_ok_iff_available (settings : Settings.Baseline) (around : Surroundings)
    (snapshots : Snapshots) (request : Request) (source : Source) :
    (∃ found, offer settings around snapshots request source = .ok found) ↔
      Available settings around snapshots request source := by
  cases source with
  | mergeBase =>
      simp only [offer, Available, git_offer_eq_ok_iff, Vcs.merge_base_offer_eq_ok_iff]
      constructor
      · rintro ⟨found, enabled, vcs, present, head, current, base, text, computed, read, -⟩
        exact ⟨enabled, vcs, present, ⟨head, current⟩, base, text, computed, read⟩
      · rintro ⟨enabled, vcs, present, ⟨head, current⟩, base, text, computed, read⟩
        exact ⟨_, enabled, vcs, present, head, current, base, text, computed, read, rfl⟩
  | head =>
      simp only [offer, Available, git_offer_eq_ok_iff, Vcs.head_offer_eq_ok_iff]
      constructor
      · rintro ⟨found, enabled, vcs, present, head, current, tracked, text, read, -⟩
        exact ⟨enabled, vcs, present, head, current, tracked, text, read⟩
      · rintro ⟨enabled, vcs, present, head, current, tracked, text, read⟩
        exact ⟨_, enabled, vcs, present, head, current, tracked, text, read, rfl⟩
  | snapshot =>
      simp only [offer, Available]
      cases settings.keepSnapshots <;> cases snapshots.get? request.path.toString <;> simp
  | disk =>
      simp only [offer, Available]
      cases around.files.read request.path <;> simp
  | itself => simp [offer, Available]

theorem not_available_of_error (settings : Settings.Baseline) (around : Surroundings)
    (snapshots : Snapshots) (request : Request) (source : Source) (skip : Skip)
    (refused : offer settings around snapshots request source = .error skip) :
    ¬Available settings around snapshots request source := by
  intro available
  obtain ⟨found, offered⟩ :=
    (offer_ok_iff_available settings around snapshots request source).mpr available
  rw [refused] at offered
  cases offered

/-- With nothing cached, asking gives what version control has at its head. -/
theorem through_git_uncached (settings : Settings.Baseline) (vcs : Option Vcs) (key : Vcs → RefKey)
    (ask : Vcs → String → Except Skip Offer) (made : Offer → Resolved) :
    (throughGit settings vcs {} key fun client head => (ask client head).map made).1 =
      (gitOffer settings vcs ask).map made := by
  unfold throughGit gitOffer
  cases gitSource settings vcs with
  | error skip => rfl
  | ok client =>
      dsimp only
      rw [through_cache_empty]
      cases client.headId <;> rfl

theorem merge_base_attempt_uncached (settings : Settings.Baseline) (around : Surroundings)
    (snapshots : Snapshots) (request : Request) :
    (mergeBaseAttempt settings around.vcs {} request).1 =
      (offer settings around snapshots request .mergeBase).map
        (mergeBaseBaseline request.target) := by
  rw [merge_base_attempt_eq, through_git_uncached]
  rfl

theorem head_attempt_uncached (settings : Settings.Baseline) (around : Surroundings)
    (snapshots : Snapshots) (request : Request) (skipped : Option Skip) :
    (headAttempt settings around.vcs {} request skipped).1 =
      (offer settings around snapshots request .head).map (headBaseline skipped) := by
  rw [head_attempt_eq, through_git_uncached]
  rfl

theorem merge_base_attempt_uncached_skipped (settings : Settings.Baseline) (vcs : Option Vcs)
    (request : Request) (skip : Skip)
    (skipped : (mergeBaseAttempt settings vcs {} request).1 = .error skip) :
    (mergeBaseAttempt settings vcs {} request).2 = {} := by
  unfold mergeBaseAttempt at skipped ⊢
  cases asked : gitSource settings vcs with
  | error reason => rfl
  | ok client =>
      rw [asked] at skipped
      exact through_cache_empty_skipped _ _ _ skip skipped

theorem without_snapshot_takes_first (settings : Settings.Baseline) (around : Surroundings)
    (snapshots : Snapshots) (refs : RefCache) (request : Request) (skip : Skip)
    (refused : offer settings around snapshots request .head = .error skip) :
    ∃ source found,
      Source.IsFirst (Available settings around snapshots request) [.disk, .itself] source ∧
      offer settings around snapshots request source = .ok found ∧
      withoutSnapshot settings around.files ⟨snapshots, refs⟩ request skip =
        (source.baseline settings around snapshots request found,
          ⟨source.seeded settings snapshots request found, refs⟩) := by
  cases read : around.files.read request.path with
  | ok text =>
      refine ⟨.disk, ⟨Text.given text, none⟩, Source.is_first_here _ ⟨text, read⟩, by simp [offer, read], ?_⟩
      cases kept : settings.keepSnapshots <;>
        simp [withoutSnapshot, read, fromDisk, Source.baseline, Source.kind, Source.refName,
          Source.reason, refused, skipOf, Source.seeded, Caches.remember, kept]
  | error message =>
      have unread : offer settings around snapshots request .disk =
          .error (.diskProblem (readProblem message)) := by simp [offer, read]
      have absent := not_available_of_error settings around snapshots request .disk _ unread
      refine ⟨.itself, ⟨Text.given request.current, none⟩,
        Source.is_first_later absent (Source.is_first_here _ trivial), rfl, ?_⟩
      cases kept : settings.keepSnapshots <;>
        simp [withoutSnapshot, read, Source.baseline, Source.kind, Source.refName, Source.reason,
          unread, skipOf, Source.seeded, Caches.remember, kept]

/-- Without version control the first of the three other sources is taken. -/
theorem without_git_takes_first (settings : Settings.Baseline) (around : Surroundings)
    (snapshots : Snapshots) (refs : RefCache) (request : Request) (skip : Skip)
    (refused : offer settings around snapshots request .head = .error skip) :
    ∃ source found,
      Source.IsFirst (Available settings around snapshots request)
        [.snapshot, .disk, .itself] source ∧
      offer settings around snapshots request source = .ok found ∧
      withoutGit settings around.files ⟨snapshots, refs⟩ request skip =
        (source.baseline settings around snapshots request found,
          ⟨source.seeded settings snapshots request found, refs⟩) := by
  obtain ⟨source, found, first, has, taken⟩ :=
    without_snapshot_takes_first settings around snapshots refs request skip refused
  unfold withoutGit
  cases kept : settings.keepSnapshots with
  | false =>
      have missing : ¬Available settings around snapshots request .snapshot := by
        simp [Available, kept]
      exact ⟨source, found, Source.is_first_later missing first, has, taken⟩
  | true =>
      cases saved : snapshots.get? request.path.toString with
      | none =>
          have missing : ¬Available settings around snapshots request .snapshot := by
            simp [Available, saved]
          exact ⟨source, found, Source.is_first_later missing first, has,
            by simpa [saved] using taken⟩
      | some text =>
          refine ⟨.snapshot, ⟨text, none⟩, Source.is_first_here _ ⟨kept, text, saved⟩,
            by simp [offer, kept, saved], ?_⟩
          simp [Source.baseline, Source.kind, Source.refName, Source.reason, refused, skipOf,
            Source.seeded]

/-- Once the common ancestor is out of the question, the first of the other sources is taken. -/
theorem after_head_takes_first (settings : Settings.Baseline) (around : Surroundings)
    (snapshots : Snapshots) (request : Request) (skipped : Option Skip)
    (explained : Source.reason settings around snapshots request .head =
      skipped.map .skipped) :
    ∃ source found,
      Source.IsFirst (Available settings around snapshots request)
        [.head, .snapshot, .disk, .itself] source ∧
      offer settings around snapshots request source = .ok found ∧
      (afterHead settings around.files snapshots request
        (headAttempt settings around.vcs {} request skipped)).1 =
          source.baseline settings around snapshots request found ∧
      (afterHead settings around.files snapshots request
        (headAttempt settings around.vcs {} request skipped)).2.snapshots =
          source.seeded settings snapshots request found := by
  have uncached := head_attempt_uncached settings around snapshots request skipped
  rcases attempted : headAttempt settings around.vcs {} request skipped with ⟨outcome, refs⟩
  rw [attempted] at uncached
  cases offered : offer settings around snapshots request .head with
  | ok found =>
      rw [offered] at uncached
      simp only [Except.map] at uncached
      subst uncached
      have available := (offer_ok_iff_available settings around snapshots request .head).mp
        ⟨found, offered⟩
      refine ⟨.head, found, Source.is_first_here _ available, offered, ?_, ?_⟩
      · simp [afterHead, headBaseline, Source.baseline, Source.kind, Source.refName, explained]
      · simp [afterHead, Source.seeded]
  | error skip =>
      rw [offered] at uncached
      simp only [Except.map] at uncached
      subst uncached
      have absent := not_available_of_error settings around snapshots request .head skip offered
      obtain ⟨source, found, first, has, taken⟩ :=
        without_git_takes_first settings around snapshots refs request skip offered
      refine ⟨source, found, Source.is_first_later absent first, has, ?_, ?_⟩
      · simp only [afterHead, taken]
      · simp only [afterHead, taken]

theorem resolve_takes_first (settings : Settings.Baseline) (around : Surroundings)
    (snapshots : Snapshots) (request : Request) :
    ∃ source found,
      Source.IsFirst (Available settings around snapshots request)
        (Source.chain request.mode) source ∧
      offer settings around snapshots request source = .ok found ∧
      (resolve settings around ⟨snapshots, {}⟩ request).result.1 =
        source.baseline settings around snapshots request found ∧
      (resolve settings around ⟨snapshots, {}⟩ request).result.2.snapshots =
        source.seeded settings snapshots request found := by
  cases mode : request.mode with
  | «local» =>
      rw [resolve_local settings around _ request mode]
      apply after_head_takes_first
      simp [Source.reason, mode]
  | pr =>
      rw [resolve_pr settings around _ request mode]
      have uncached := merge_base_attempt_uncached settings around snapshots request
      have emptied := merge_base_attempt_uncached_skipped settings around.vcs request
      rcases attempted : mergeBaseAttempt settings around.vcs {} request with ⟨outcome, refs⟩
      rw [attempted] at uncached emptied
      cases offered : offer settings around snapshots request .mergeBase with
      | ok found =>
          rw [offered] at uncached
          simp only [Except.map] at uncached
          subst uncached
          have available := (offer_ok_iff_available settings around snapshots request .mergeBase).mp
            ⟨found, offered⟩
          refine ⟨.mergeBase, found, Source.is_first_here _ available, offered, ?_, ?_⟩
          · simp [mergeBaseBaseline, Source.baseline, Source.kind, Source.refName, Source.reason]
          · simp [Source.seeded]
      | error skip =>
          rw [offered] at uncached
          simp only [Except.map] at uncached
          subst uncached
          have absent :=
            not_available_of_error settings around snapshots request .mergeBase skip offered
          have emptied : refs = {} := emptied skip rfl
          subst emptied
          have explained : Source.reason settings around snapshots request .head =
              (some skip).map .skipped := by
            simp [Source.reason, mode, offered, skipOf]
          obtain ⟨source, found, first, rest⟩ :=
            after_head_takes_first settings around snapshots request (some skip) explained
          exact ⟨source, found, Source.is_first_later absent first, rest⟩

/-- What was asked for, or else what is set. -/
def orSetting (asked : Option String) (setting : String) : String :=
  match asked with
  | some text => if text.isEmpty then setting else text
  | none => setting

theorem request_of_known_mode (settings : Settings.Baseline) (path : Path) (current : List Char)
    (mode target : Option String)
    (known : orSetting mode settings.mode.name = "local" ∨
      orSetting mode settings.mode.name = "pr") :
    ∃ request, requestOf settings path current mode target = .ok request ∧
      request.path = path ∧ request.current = current ∧
      request.mode.name = orSetting mode settings.mode.name ∧
      request.target = orSetting target settings.target := by
  cases mode with
  | none => exact ⟨_, rfl, rfl, rfl, rfl, rfl⟩
  | some name =>
      by_cases blank : name.isEmpty
      · exact ⟨⟨path, current, settings.mode, orSetting target settings.target⟩,
          by simp only [requestOf, blank, if_true]; rfl, rfl, rfl, by simp [orSetting, blank], rfl⟩
      · simp only [orSetting, blank, Bool.false_eq_true, if_false] at known ⊢
        rcases known with rfl | rfl
        · exact ⟨⟨path, current, .local, orSetting target settings.target⟩, rfl, rfl, rfl, rfl, rfl⟩
        · exact ⟨⟨path, current, .pr, orSetting target settings.target⟩, rfl, rfl, rfl, rfl, rfl⟩

theorem text_skipped (skip : Skip) : (Reason.skipped skip).text = skip.text := rfl

theorem text_fallback (skip : Skip) :
    (Reason.fallback skip).text = "fallback_from_" ++ skip.text := rfl

theorem text_disk_problem (message : String) :
    (Skip.diskProblem message).text = "disk_read_error: " ++ message := rfl

/-- All that a resolution says and does when a source wins. -/
structure TakenFrom (settings : Settings.Baseline) (around : Surroundings) (snapshots : Snapshots)
    (request : Request) (source : Source) (found : Offer) (outcome : Outcome) : Prop where
  first : Source.IsFirst (Available settings around snapshots request)
    (Source.chain request.mode) source
  offered : offer settings around snapshots request source = .ok found
  baseline : outcome.baseline = source.baseline settings around snapshots request found
  silent : source = .mergeBase ∨ (source = .head ∧ request.mode = .local) →
    outcome.baseline.resolution.reason = none
  explained : source = .head → request.mode = .pr →
    ∃ skip, offer settings around snapshots request .mergeBase = .error skip ∧
      outcome.baseline.resolution.reason.map Reason.text = some skip.text
  fallback : source = .snapshot ∨ source = .disk →
    ∃ skip, offer settings around snapshots request .head = .error skip ∧
      outcome.baseline.resolution.reason.map Reason.text = some ("fallback_from_" ++ skip.text)
  unread : source = .itself →
    outcome.baseline.resolution.kind = .none ∧ outcome.baseline.resolution.available = false ∧
      ∃ message, around.files.read request.path = .error message ∧
        outcome.baseline.resolution.reason.map Reason.text =
          some ("disk_read_error: " ++ orSetting message "unreadable")
  empty : outcome.baseline.isEmpty = true ↔
    source = .itself ∨ (source = .disk ∧ found.text = Text.given request.current)
  seeded : outcome.caches.snapshots = source.seeded settings snapshots request found

theorem refused_of_not_available (settings : Settings.Baseline) (around : Surroundings)
    (snapshots : Snapshots) (request : Request) (source : Source)
    (missing : ¬Available settings around snapshots request source) :
    ∃ skip, offer settings around snapshots request source = .error skip := by
  cases offered : offer settings around snapshots request source with
  | error skip => exact ⟨skip, rfl⟩
  | ok found =>
      exact absurd ((offer_ok_iff_available settings around snapshots request source).mp
        ⟨found, offered⟩) missing

/-- A source that wins leaves no available source before it in the chain. -/
theorem passed_over {available : Source → Prop} {mode : Settings.Mode} {source : Source}
    (first : Source.IsFirst available (Source.chain mode) source) :
    (source = .head → mode = .pr → ¬available .mergeBase) ∧
      (source = .snapshot ∨ source = .disk → ¬available .head) ∧
      (source = .itself → ¬available .disk) := by
  cases mode <;> cases source <;> simp_all [Source.chain, Source.IsFirst]

theorem resolve_taken_from (settings : Settings.Baseline) (around : Surroundings)
    (snapshots : Snapshots) (request : Request) :
    ∃ source found, TakenFrom settings around snapshots request source found
      (resolve settings around ⟨snapshots, {}⟩ request) := by
  obtain ⟨source, found, first, offered, baseline, seeded⟩ :=
    resolve_takes_first settings around snapshots request
  change (resolve settings around ⟨snapshots, {}⟩ request).baseline = _ at baseline
  change (resolve settings around ⟨snapshots, {}⟩ request).caches.snapshots = _ at seeded
  obtain ⟨ancestorSkipped, headSkipped, diskSkipped⟩ := passed_over first
  refine ⟨source, found, first, offered, baseline, ?_, ?_, ?_, ?_, ?_, seeded⟩
  · rintro (rfl | ⟨rfl, mode⟩)
    · rw [baseline]
      rfl
    · rw [baseline]
      simp [Source.baseline, Source.reason, mode]
  · rintro rfl mode
    obtain ⟨skip, refused⟩ := refused_of_not_available settings around snapshots request .mergeBase
      (ancestorSkipped rfl mode)
    refine ⟨skip, refused, ?_⟩
    rw [baseline]
    simp only [Source.baseline, Source.reason, mode, refused, skipOf, Option.map_some, text_skipped]
  · intro kept
    obtain ⟨skip, refused⟩ := refused_of_not_available settings around snapshots request .head
      (headSkipped kept)
    refine ⟨skip, refused, ?_⟩
    rw [baseline]
    rcases kept with rfl | rfl <;>
      simp only [Source.baseline, Source.reason, refused, skipOf, Option.map_some, text_fallback]
  · rintro rfl
    have missing := diskSkipped rfl
    cases read : around.files.read request.path with
    | ok text => exact absurd ⟨text, read⟩ missing
    | error message =>
        rw [baseline]
        refine ⟨rfl, rfl, message, rfl, ?_⟩
        have said : readProblem message = orSetting message "unreadable" := by
          cases message <;> rfl
        simp only [Source.baseline, Source.reason, offer, read, skipOf, Option.map_some,
          text_skipped, text_disk_problem, said]
  · rw [baseline]
    simp [Source.baseline]

/-- With nothing cached from version control, a call in a known mode has an answer, and it is the
one of the first available source: the common ancestor in `pr` mode, the head, the last text seen,
the text on disk, and the current text itself. -/
theorem resolution_follows_chain (settings : Settings.Baseline) (around : Surroundings)
    (snapshots : Snapshots) (path : Path) (current : List Char) (mode target : Option String)
    (known : orSetting mode settings.mode.name = "local" ∨
      orSetting mode settings.mode.name = "pr") :
    ∃ request, requestOf settings path current mode target = .ok request ∧
      request.path = path ∧ request.current = current ∧
      request.mode.name = orSetting mode settings.mode.name ∧
      request.target = orSetting target settings.target ∧
      (∀ source, (∃ found, offer settings around snapshots request source = .ok found) ↔
        Available settings around snapshots request source) ∧
      ∃ source found, TakenFrom settings around snapshots request source found
        (resolve settings around ⟨snapshots, {}⟩ request) := by
  obtain ⟨request, made, samePath, sameText, sameMode, sameTarget⟩ :=
    request_of_known_mode settings path current mode target known
  exact ⟨request, made, samePath, sameText, sameMode, sameTarget,
    offer_ok_iff_available settings around snapshots request,
    resolve_taken_from settings around snapshots request⟩

/-- An unreadable file in a repository that fails when it is asked for tracked files. -/
def lockedSurroundings : Surroundings where
  files := unreadableFiles
  vcs := some
    { root := none, currentRef := .ok (some "c2"), isTracked := fun _ => .error "index locked"
      mergeBase := fun _ => .ok none, readAt := fun _ _ => .ok none }

theorem locked_resolution_follows_chain :
    ∃ request, requestOf {} ⟨.slash, ["a.ts"]⟩ ['x'] (some "pr") none = .ok request ∧
      request.mode.name = "pr" ∧ request.target = "main" ∧
      TakenFrom {} lockedSurroundings {} request .itself ⟨[.char 'x'], none⟩
        (resolve {} lockedSurroundings ⟨{}, {}⟩ request) := by
  obtain ⟨request, made, -, current, mode, target, -, source, found, taken⟩ :=
    resolution_follows_chain {} lockedSurroundings {} ⟨.slash, ["a.ts"]⟩ ['x'] (some "pr") none
      (.inr rfl)
  have last : source = .itself := by
    have first := taken.first
    cases source <;> cases chosen : request.mode <;>
      simp_all [Source.chain, Source.IsFirst, Available, lockedSurroundings, unreadableFiles,
        Store.get?]
  subst last
  have offered := taken.offered
  simp only [offer, Except.ok.injEq, current] at offered
  subst offered
  exact ⟨request, made, mode, target, taken⟩

end EditImpact.Baseline
