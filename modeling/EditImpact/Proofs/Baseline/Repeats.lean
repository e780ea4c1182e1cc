import EditImpact.Proofs.Baseline.Snapshots

/-!
# Resolving once more

What an attempt answered is what its cache holds afterwards for the current head, and where it had
no answer nothing is held. So the same request finds version control as before, also where the
common ancestor and the head share a key (`ask_git_again`). Without version control the first
resolution may leave a snapshot, and the second one finds it.
-/

namespace EditImpact.Baseline

set_option autoImplicit false

section Caching

variable {refs other : RefCache} {key : RefKey} {head : Except Skip String}
  {fresh : String → Except Skip Resolved}

/-- After an attempt the cache holds its answer. -/
theorem held_through_cache {id : String} (known : head = .ok id) :
    (throughCache refs key head fresh).2.held key id =
      (throughCache refs key head fresh).1.toOption := by
  subst known
  simp only [throughCache]
  cases held : refs.held key id with
  | some cached => exact held
  | none =>
      have kept := refs.get_lookup_missed key key id held
      rw [if_pos rfl] at kept
      cases fresh id with
      | error skip =>
          unfold RefCache.held
          rw [kept]
          rfl
      | ok baseline =>
          apply (RefCache.held_eq_some_iff _ key id baseline).mpr
          rw [RefCache.get_store, if_pos rfl]

theorem held_through_cache_other {name : RefKey} (different : name ≠ key) (id : String) :
    (throughCache refs key head fresh).2.held name id = refs.held name id := by
  unfold RefCache.held
  rw [get_through_cache_other refs key head fresh different]

/-- An attempt behind a cache that holds its answer gives this answer. -/
theorem through_cache_primed
    (primed : ∀ id, head = .ok id →
      other.held key id = (throughCache refs key head fresh).1.toOption) :
    (throughCache other key head fresh).1 = (throughCache refs key head fresh).1 := by
  cases answer : (throughCache refs key head fresh).1 with
  | ok baseline =>
      obtain ⟨id, known, -⟩ := (through_cache_eq_ok_iff refs key head fresh baseline).mp answer
      apply (through_cache_eq_ok_iff other key head fresh baseline).mpr
      refine ⟨id, known, .inl ?_⟩
      rw [primed id known, answer]
      rfl
  | error skip =>
      apply (through_cache_eq_error_iff other key head fresh skip).mpr
      obtain failed | ⟨id, known, -, refused⟩ :=
        (through_cache_eq_error_iff refs key head fresh skip).mp answer
      · exact .inl failed
      · refine .inr ⟨id, known, ?_, refused⟩
        rw [primed id known, answer]
        rfl

theorem through_cache_again :
    (throughCache (throughCache refs key head fresh).2 key head fresh).1 =
      (throughCache refs key head fresh).1 :=
  through_cache_primed fun _ known => held_through_cache known

end Caching

/-- Two attempts behind one cache: the second is made where the first has no answer, and is told
why. -/
def throughBoth (refs : RefCache) (first second : RefKey) (head : Except Skip String)
    (early : String → Except Skip Resolved) (late : Skip → String → Except Skip Resolved) :
    Except Skip Resolved × RefCache :=
  match throughCache refs first head early with
  | (.ok baseline, refs) => (.ok baseline, refs)
  | (.error skip, refs) => throughCache refs second head (late skip)

section Both

variable {refs : RefCache} {first second : RefKey} {head : Except Skip String}
  {early : String → Except Skip Resolved} {late : Skip → String → Except Skip Resolved}

theorem through_both_of_ok {baseline : Resolved}
    (answered : (throughCache refs first head early).1 = .ok baseline) :
    throughBoth refs first second head early late =
      (.ok baseline, (throughCache refs first head early).2) := by
  unfold throughBoth
  rw [← answered]
  split
  · next known => rw [known]
  · next known =>
      rw [known] at answered
      cases answered

theorem through_both_of_error {skip : Skip}
    (skipped : (throughCache refs first head early).1 = .error skip) :
    throughBoth refs first second head early late =
      throughCache (throughCache refs first head early).2 second head (late skip) := by
  unfold throughBoth
  split
  · next known =>
      rw [known] at skipped
      cases skipped
  · next known =>
      rw [known] at skipped
      cases skipped
      rw [known]

/-- Under different keys the attempts do not see each other's entries. -/
theorem through_both_again_apart (apart : first ≠ second) {skip : Skip}
    (skipped : (throughCache refs first head early).1 = .error skip) :
    (throughBoth (throughBoth refs first second head early late).2 first second head early
        late).1 =
      (throughBoth refs first second head early late).1 := by
  rw [through_both_of_error skipped]
  have again : (throughCache (throughCache (throughCache refs first head early).2 second head
      (late skip)).2 first head early).1 = .error skip := by
    rw [← skipped]
    apply through_cache_primed
    intro id known
    rw [held_through_cache_other apart, held_through_cache known]
  rw [through_both_of_error again]
  apply through_cache_primed
  intro id known
  rw [held_through_cache_other apart.symm, held_through_cache known]

/-- Under one key the first attempt finds what the second one stored. -/
theorem through_both_again_shared {skip : Skip}
    (skipped : (throughCache refs first head early).1 = .error skip) :
    (throughBoth (throughBoth refs first first head early late).2 first first head early late).1 =
      (throughBoth refs first first head early late).1 := by
  rw [through_both_of_error skipped]
  cases answer : (throughCache (throughCache refs first head early).2 first head (late skip)).1 with
  | ok baseline =>
      obtain ⟨id, known, -⟩ := (through_cache_eq_ok_iff _ _ _ _ baseline).mp answer
      have again : (throughCache (throughCache (throughCache refs first head early).2 first head
          (late skip)).2 first head early).1 = .ok baseline := by
        apply (through_cache_eq_ok_iff _ _ _ _ baseline).mpr
        refine ⟨id, known, .inl ?_⟩
        rw [held_through_cache known, answer]
        rfl
      rw [through_both_of_ok again]
  | error problem =>
      have again : (throughCache (throughCache (throughCache refs first head early).2 first head
          (late skip)).2 first head early).1 = .error skip := by
        rw [← skipped]
        apply through_cache_primed
        intro id known
        rw [held_through_cache known, answer, skipped]
        rfl
      rw [through_both_of_error again, ← answer]
      apply through_cache_primed
      intro id known
      rw [held_through_cache known, again, answer]
      rfl

/-- Both attempts once more: the answer is the same. -/
theorem through_both_again :
    (throughBoth (throughBoth refs first second head early late).2 first second head early
        late).1 =
      (throughBoth refs first second head early late).1 := by
  cases answer : (throughCache refs first head early).1 with
  | ok baseline =>
      have again := through_cache_again.trans answer
      rw [through_both_of_ok answer, through_both_of_ok again]
  | error skip =>
      by_cases shared : first = second
      · subst shared
        exact through_both_again_shared answer
      · exact through_both_again_apart shared answer

end Both

/-- All that a request asks of version control. -/
def askGit (settings : Settings.Baseline) (vcs : Option Vcs) (refs : RefCache)
    (request : Request) : Except Skip Resolved × RefCache :=
  match request.mode with
  | .local => headAttempt settings vcs refs request none
  | .pr =>
    match mergeBaseAttempt settings vcs refs request with
    | (.ok baseline, refs) => (.ok baseline, refs)
    | (.error skip, refs) => headAttempt settings vcs refs request (some skip)

section Asking

variable {settings : Settings.Baseline} {vcs : Option Vcs} {refs : RefCache} {request : Request}

theorem resolve_result (settings : Settings.Baseline) (around : Surroundings) (caches : Caches)
    (request : Request) :
    (resolve settings around caches request).result =
      afterHead settings around.files caches.snapshots request
        (askGit settings around.vcs caches.refs request) := by
  unfold askGit
  cases mode : request.mode with
  | «local» => exact resolve_local settings around caches request mode
  | pr =>
      rw [resolve_pr settings around caches request mode]
      rcases mergeBaseAttempt settings around.vcs caches.refs request with ⟨_ | baseline, refs⟩
      · rfl
      · rfl

theorem ask_git_again :
    (askGit settings vcs (askGit settings vcs refs request).2 request).1 =
      (askGit settings vcs refs request).1 := by
  cases asked : gitSource settings vcs with
  | error skip =>
      cases mode : request.mode <;>
        simp only [askGit, mode, mergeBaseAttempt, headAttempt, asked]
  | ok client =>
      cases mode : request.mode with
      | «local» =>
          simp only [askGit, mode, headAttempt, asked]
          exact through_cache_again
      | pr =>
          have both (refs : RefCache) : askGit settings vcs refs request =
              throughBoth refs (mergeBaseKey client request) (headKey client request)
                client.headId
                (fun _ => (client.mergeBaseOffer request.path request.target).map
                  (mergeBaseBaseline request.target))
                (fun skip head => (client.headOffer request.path head).map
                  (headBaseline (some skip))) := by
            simp only [askGit, mode, mergeBaseAttempt, headAttempt, asked, throughBoth]
          rw [both, both]
          exact through_both_again

theorem ask_git_versioned (versioned : AllVersioned refs) {baseline : Resolved}
    (answered : (askGit settings vcs refs request).1 = .ok baseline) :
    baseline.resolution.kind.isVersioned = true := by
  unfold askGit at answered
  cases mode : request.mode with
  | «local» =>
      rw [mode] at answered
      exact head_attempt_versioned versioned answered
  | pr =>
      rw [mode] at answered
      rcases attempted : mergeBaseAttempt settings vcs refs request with ⟨skip | found, left⟩
      · rw [attempted] at answered
        apply head_attempt_versioned _ answered
        intro key entry stored
        rcases get_merge_base_attempt mode (by rw [attempted]; exact stored) with before | made
        · exact versioned key entry before
        · exact made_versioned (.inl made)
      · rw [attempted] at answered
        cases answered
        exact merge_base_attempt_versioned versioned (congrArg Prod.fst attempted)

end Asking

/-- The baseline from a snapshot, with why version control was passed over. -/
def snapshotBaseline (skip : Skip) (text : Text.Given) : Resolved where
  text := text
  resolution := { kind := .snapshot, available := true, reason := some (.fallback skip) }

section Resolving

variable {settings : Settings.Baseline} {around : Surroundings} {caches : Caches}
  {request : Request} {outcome : Outcome}

theorem without_git_unkept (unkept : settings.keepSnapshots = false) (files : Files.FileSystem)
    (caches other : Caches) (request : Request) (skip : Skip) :
    (withoutGit settings files caches request skip).1 =
      (withoutGit settings files other request skip).1 := by
  simp only [withoutGit, unkept, Bool.false_eq_true, if_false, withoutSnapshot]
  cases files.read request.path <;> rfl

theorem without_git_kept (kept : settings.keepSnapshots = true) (files : Files.FileSystem)
    {caches : Caches} {text : Text.Given}
    (held : caches.snapshots.get? request.path.toString = some text) (skip : Skip) :
    (withoutGit settings files caches request skip).1 =
      snapshotBaseline skip text := by
  simp only [withoutGit, kept, if_true, held, snapshotBaseline]

theorem after_head_of_ok (files : Files.FileSystem) (snapshots : Snapshots)
    {attempt : Except Skip Resolved × RefCache} {baseline : Resolved}
    (answered : attempt.1 = .ok baseline) :
    (afterHead settings files snapshots request attempt).1 = baseline := by
  obtain ⟨answer, refs⟩ := attempt
  cases answered
  rfl

theorem after_head_of_error (files : Files.FileSystem) (snapshots : Snapshots)
    {attempt : Except Skip Resolved × RefCache} {skip : Skip}
    (skipped : attempt.1 = .error skip) :
    (afterHead settings files snapshots request attempt).1 =
      (withoutGit settings files ⟨snapshots, attempt.2⟩ request skip).1 := by
  obtain ⟨answer, refs⟩ := attempt
  cases skipped
  rfl

/-- The request once more, on what the first analysis left: version control answers as it did, and
without it the text that was current is the snapshot, if snapshots are kept. -/
theorem resolve_again (versioned : AllVersioned caches.refs)
    (resolved : resolve settings around caches request = outcome) :
    let again := (resolve settings around
      (recorded settings request.path request.current outcome) request).baseline
    (outcome.baseline.resolution.kind.isVersioned = true ∨ settings.keepSnapshots = false →
      again = outcome.baseline) ∧
    (outcome.baseline.resolution.kind.isVersioned = false → settings.keepSnapshots = true →
      ∃ skip, again = snapshotBaseline skip (Text.given request.current)) := by
  intro again
  have first : (outcome.baseline, outcome.caches) =
      afterHead settings around.files caches.snapshots request
        (askGit settings around.vcs caches.refs request) := by
    rw [← resolve_result, resolved]
    rfl
  have left : outcome.caches.refs = (askGit settings around.vcs caches.refs request).2 := by
    rw [← after_head_refs settings around.files caches.snapshots request, ← first]
  have second : again =
      (afterHead settings around.files
        (recorded settings request.path request.current outcome).snapshots request
        (askGit settings around.vcs (askGit settings around.vcs caches.refs request).2
          request)).1 := by
    rw [← left, ← recorded_refs settings request.path request.current outcome, ← resolve_result]
    rfl
  have same : (askGit settings around.vcs (askGit settings around.vcs caches.refs request).2
      request).1 = (askGit settings around.vcs caches.refs request).1 := ask_git_again
  cases answer : (askGit settings around.vcs caches.refs request).1 with
  | ok baseline =>
      have taken : outcome.baseline = baseline :=
        (congrArg Prod.fst first).trans (after_head_of_ok _ _ answer)
      have takenAgain : again = baseline :=
        second.trans (after_head_of_ok _ _ (same.trans answer))
      constructor
      · intro _
        rw [takenAgain, taken]
      · intro kind
        rw [taken, ask_git_versioned versioned answer] at kind
        cases kind
  | error skip =>
      have taken := (congrArg Prod.fst first).trans (after_head_of_error _ _ answer)
      have takenAgain := second.trans (after_head_of_error _ _ (same.trans answer))
      constructor
      · rintro (kind | unkept)
        · dsimp only at taken
          rw [taken] at kind
          rcases without_git_kind settings around.files _ request skip with known | known <;>
            rw [known] at kind <;> cases kind
        · rw [takenAgain]
          exact (without_git_unkept unkept _ _ _ request skip).trans taken.symm
      · intro kind kept
        have settled : Settles around.files caches.snapshots request outcome.baseline
            outcome.caches.snapshots := by
          rw [← resolved]
          exact resolve_settles kept versioned
        have held := get_recorded kept settled kind request.path.toString
        rw [if_pos rfl] at held
        refine ⟨skip, takenAgain.trans ?_⟩
        apply without_git_kept kept
        exact held

end Resolving

end EditImpact.Baseline
