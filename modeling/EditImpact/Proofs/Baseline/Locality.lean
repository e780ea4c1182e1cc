import EditImpact.Proofs.Baseline.Repeats

/-!
# What one file has to do with the caches

Snapshots are kept by path, and the path is a part of every key of the cache for version control.
So a resolution reads and writes the entries of its own file: caches that agree on it give the same
baseline and agree on it afterwards (`resolve_alike`), and what is kept for another file stays as it
is (`resolve_elsewhere`).
-/

namespace EditImpact.Baseline

set_option autoImplicit false

/-- Two caches for version control have the same entries of a file. -/
def RefCache.Alike (file : String) (refs other : RefCache) : Prop :=
  ∀ key, key.path = file → Store.get? refs key = Store.get? other key

/-- The same is remembered of a file. -/
structure Caches.Alike (file : String) (caches other : Caches) : Prop where
  snapshot : caches.snapshots.get? file = other.snapshots.get? file
  refs : RefCache.Alike file caches.refs other.refs

namespace RefCache

variable {file : String} {refs other : RefCache}

theorem alike_refl (file : String) (refs : RefCache) : Alike file refs refs := fun _ _ => rfl

theorem Alike.trans {third : RefCache} (first : Alike file refs other)
    (second : Alike file other third) : Alike file refs third :=
  fun key own => (first key own).trans (second key own)

theorem Alike.held (alike : Alike file refs other) {key : RefKey} (own : key.path = file)
    (head : String) : refs.held key head = other.held key head := by
  unfold RefCache.held
  rw [alike key own]

theorem discard_path_alike (alike : Alike file refs other) (path : String) :
    Alike file (refs.discardPath path) (other.discardPath path) := by
  intro key own
  simp only [get_discard_path, alike key own]

theorem discard_path_elsewhere {path : String} (different : path ≠ file) (refs : RefCache) :
    Alike file (refs.discardPath path) refs := by
  rintro key rfl
  rw [get_discard_path]
  exact if_neg different.symm

end RefCache

namespace Caches

variable {file : String} {caches other : Caches}

theorem alike_refl (file : String) (caches : Caches) : Alike file caches caches :=
  ⟨rfl, RefCache.alike_refl file _⟩

theorem Alike.trans {third : Caches} (first : Alike file caches other)
    (second : Alike file other third) : Alike file caches third :=
  ⟨first.snapshot.trans second.snapshot, first.refs.trans second.refs⟩

end Caches

section Attempts

variable {file : String} {refs other : RefCache} {key : RefKey} {head : Except Skip String}
  {fresh : String → Except Skip Resolved}

/-- What an attempt behind a cache leaves under its own key is a function of what was there. -/
theorem through_cache_alike (alike : refs.Alike file other) (own : key.path = file) :
    (throughCache refs key head fresh).1 = (throughCache other key head fresh).1 ∧
      (throughCache refs key head fresh).2.Alike file (throughCache other key head fresh).2 := by
  rcases head with skip | id
  · exact ⟨rfl, alike⟩
  · have same := alike.held own id
    simp only [throughCache]
    cases held : other.held key id with
    | some cached =>
        rw [held] at same
        rw [same]
        exact ⟨rfl, alike⟩
    | none =>
        rw [held] at same
        rw [same]
        have kept (name : RefKey) (mine : name.path = file) :
            Store.get? (refs.lookup key (some id)).2 name =
              Store.get? (other.lookup key (some id)).2 name := by
          rw [refs.get_lookup_missed key name id same, other.get_lookup_missed key name id held,
            alike name mine]
        cases fresh id with
        | error skip => exact ⟨rfl, kept⟩
        | ok baseline =>
            refine ⟨rfl, fun name mine => ?_⟩
            rw [RefCache.get_store, RefCache.get_store, kept name mine]

theorem through_cache_elsewhere (refs : RefCache) (head : Except Skip String)
    (fresh : String → Except Skip Resolved) (different : key.path ≠ file) :
    (throughCache refs key head fresh).2.Alike file refs := by
  rintro name rfl
  exact get_through_cache_other refs key head fresh fun same => different (congrArg _ same.symm)

variable {settings : Settings.Baseline} {vcs : Option Vcs} {keyOf : Vcs → RefKey}
  {freshOf : Vcs → String → Except Skip Resolved}

theorem through_git_alike (alike : refs.Alike file other)
    (own : ∀ client, (keyOf client).path = file) :
    (throughGit settings vcs refs keyOf freshOf).1 =
        (throughGit settings vcs other keyOf freshOf).1 ∧
      (throughGit settings vcs refs keyOf freshOf).2.Alike file
        (throughGit settings vcs other keyOf freshOf).2 := by
  unfold throughGit
  cases gitSource settings vcs with
  | error skip => exact ⟨rfl, alike⟩
  | ok client => exact through_cache_alike alike (own client)

theorem through_git_elsewhere (refs : RefCache) (different : ∀ client, (keyOf client).path ≠ file) :
    (throughGit settings vcs refs keyOf freshOf).2.Alike file refs := by
  unfold throughGit
  cases gitSource settings vcs with
  | error skip => exact RefCache.alike_refl file refs
  | ok client => exact through_cache_elsewhere refs _ _ (different client)

end Attempts

section Asking

variable (settings : Settings.Baseline) (vcs : Option Vcs) {request : Request} {file : String}
  {refs other : RefCache}

theorem merge_base_attempt_alike (alike : refs.Alike request.path.toString other) :
    (mergeBaseAttempt settings vcs refs request).1 = (mergeBaseAttempt settings vcs other request).1 ∧
      (mergeBaseAttempt settings vcs refs request).2.Alike request.path.toString
        (mergeBaseAttempt settings vcs other request).2 := by
  rw [merge_base_attempt_eq, merge_base_attempt_eq]
  exact through_git_alike alike fun _ => rfl

theorem head_attempt_alike (alike : refs.Alike request.path.toString other)
    (skipped : Option Skip) :
    (headAttempt settings vcs refs request skipped).1 =
        (headAttempt settings vcs other request skipped).1 ∧
      (headAttempt settings vcs refs request skipped).2.Alike request.path.toString
        (headAttempt settings vcs other request skipped).2 := by
  rw [head_attempt_eq, head_attempt_eq]
  exact through_git_alike alike fun _ => rfl

theorem ask_git_alike (alike : refs.Alike request.path.toString other) :
    (askGit settings vcs refs request).1 = (askGit settings vcs other request).1 ∧
      (askGit settings vcs refs request).2.Alike request.path.toString
        (askGit settings vcs other request).2 := by
  unfold askGit
  cases request.mode with
  | «local» => exact head_attempt_alike settings vcs alike none
  | pr =>
      obtain ⟨answers, left⟩ := merge_base_attempt_alike settings vcs alike
      rcases one : mergeBaseAttempt settings vcs refs request with ⟨first, mine⟩
      rcases two : mergeBaseAttempt settings vcs other request with ⟨second, theirs⟩
      rw [one, two] at answers left
      subst answers
      cases first with
      | ok baseline => exact ⟨rfl, left⟩
      | error skip => exact head_attempt_alike settings vcs left (some skip)

theorem ask_git_elsewhere (refs : RefCache) (different : request.path.toString ≠ file) :
    (askGit settings vcs refs request).2.Alike file refs := by
  have ancestor (refs : RefCache) :
      (mergeBaseAttempt settings vcs refs request).2.Alike file refs := by
    rw [merge_base_attempt_eq]
    exact through_git_elsewhere refs fun _ => different
  have atHead (refs : RefCache) (skipped : Option Skip) :
      (headAttempt settings vcs refs request skipped).2.Alike file refs := by
    rw [head_attempt_eq]
    exact through_git_elsewhere refs fun _ => different
  unfold askGit
  cases request.mode with
  | «local» => exact atHead refs none
  | pr =>
      have left := ancestor refs
      rcases asked : mergeBaseAttempt settings vcs refs request with ⟨_ | baseline, after⟩ <;>
        rw [asked] at left
      · exact (atHead after _).trans left
      · exact left

end Asking

section Remembering

variable (settings : Settings.Baseline) {file path : String} {caches other : Caches}

theorem remember_alike (alike : caches.Alike file other) (path : String) (text : Text.Given) :
    (caches.remember settings path text).Alike file (other.remember settings path text) := by
  unfold Caches.remember
  split
  · refine ⟨?_, alike.refs⟩
    simp only [Store.get_put, alike.snapshot]
  · exact alike

theorem remember_elsewhere (different : path ≠ file) (caches : Caches) (text : Text.Given) :
    (caches.remember settings path text).Alike file caches := by
  unfold Caches.remember
  split
  · refine ⟨?_, RefCache.alike_refl file _⟩
    simp only [Store.get_put, if_neg different.symm]
  · exact Caches.alike_refl file caches

end Remembering

section Resolving

variable (settings : Settings.Baseline) {request : Request} {file : String}
  {caches other : Caches}

theorem without_git_alike (files : Files.FileSystem)
    (alike : caches.Alike request.path.toString other) (skip : Skip) :
    (withoutGit settings files caches request skip).1 =
        (withoutGit settings files other request skip).1 ∧
      (withoutGit settings files caches request skip).2.Alike request.path.toString
        (withoutGit settings files other request skip).2 := by
  have seeded : (withoutSnapshot settings files caches request skip).1 =
        (withoutSnapshot settings files other request skip).1 ∧
      (withoutSnapshot settings files caches request skip).2.Alike request.path.toString
        (withoutSnapshot settings files other request skip).2 := by
    unfold withoutSnapshot
    cases files.read request.path with
    | ok text => exact ⟨rfl, remember_alike settings alike _ (Text.given text)⟩
    | error problem => exact ⟨rfl, remember_alike settings alike _ (Text.given request.current)⟩
  unfold withoutGit
  split
  · rw [alike.snapshot]
    cases other.snapshots.get? request.path.toString with
    | some text => exact ⟨rfl, alike⟩
    | none => exact seeded
  · exact seeded

theorem without_git_elsewhere (files : Files.FileSystem) (caches : Caches) (skip : Skip)
    (different : request.path.toString ≠ file) :
    (withoutGit settings files caches request skip).2.Alike file caches := by
  have seeded : (withoutSnapshot settings files caches request skip).2.Alike file caches := by
    unfold withoutSnapshot
    cases files.read request.path with
    | ok text => exact remember_elsewhere settings different caches (Text.given text)
    | error problem =>
        exact remember_elsewhere settings different caches (Text.given request.current)
  unfold withoutGit
  split
  · cases caches.snapshots.get? request.path.toString with
    | some text => exact Caches.alike_refl file caches
    | none => exact seeded
  · exact seeded

/-- Caches that agree on the file of a request give the same baseline, and agree on it afterwards. -/
theorem resolve_alike (around : Surroundings) (alike : caches.Alike request.path.toString other) :
    (resolve settings around caches request).baseline =
        (resolve settings around other request).baseline ∧
      (resolve settings around caches request).caches.Alike request.path.toString
        (resolve settings around other request).caches := by
  change (resolve settings around caches request).result.1 =
      (resolve settings around other request).result.1 ∧
    (resolve settings around caches request).result.2.Alike request.path.toString
      (resolve settings around other request).result.2
  rw [resolve_result, resolve_result]
  obtain ⟨answers, left⟩ := ask_git_alike settings around.vcs alike.refs
  rcases one : askGit settings around.vcs caches.refs request with ⟨first, mine⟩
  rcases two : askGit settings around.vcs other.refs request with ⟨second, theirs⟩
  rw [one, two] at answers left
  subst answers
  have agree : Caches.Alike request.path.toString ⟨caches.snapshots, mine⟩
      ⟨other.snapshots, theirs⟩ := ⟨alike.snapshot, left⟩
  cases first with
  | ok baseline => exact ⟨rfl, agree⟩
  | error skip => exact without_git_alike settings around.files agree skip

/-- A resolution leaves what is remembered of other files alone. -/
theorem resolve_elsewhere (around : Surroundings) (caches : Caches)
    (different : request.path.toString ≠ file) :
    (resolve settings around caches request).caches.Alike file caches := by
  change (resolve settings around caches request).result.2.Alike file caches
  rw [resolve_result]
  have left := ask_git_elsewhere settings around.vcs caches.refs different
  rcases asked : askGit settings around.vcs caches.refs request with ⟨_ | baseline, after⟩ <;>
    rw [asked] at left
  · exact (without_git_elsewhere settings around.files _ _ different).trans ⟨rfl, left⟩
  · exact ⟨rfl, left⟩

theorem recorded_alike {one two : Outcome} (same : one.baseline = two.baseline)
    (alike : one.caches.Alike file two.caches) (path : Path) (current : List Char) :
    (recorded settings path current one).Alike file (recorded settings path current two) := by
  unfold recorded record
  rw [same]
  split
  · exact alike
  · split
    · exact remember_alike settings alike _ (Text.given current)
    · exact alike

theorem recorded_elsewhere (outcome : Outcome) {path : Path} (different : path.toString ≠ file)
    (current : List Char) :
    (recorded settings path current outcome).Alike file outcome.caches := by
  unfold recorded record
  split
  · exact Caches.alike_refl file _
  · split
    · exact remember_elsewhere settings different _ (Text.given current)
    · exact Caches.alike_refl file _

end Resolving

end EditImpact.Baseline
