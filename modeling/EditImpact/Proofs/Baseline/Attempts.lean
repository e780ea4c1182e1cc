import EditImpact.Baseline.Resolve
import EditImpact.Proofs.Baseline.Store

/-!
# Asking version control, with and without a cache

What version control has to offer at one moment is said without the cache: `Vcs.mergeBaseOffer` and
`Vcs.headOffer`. Both ways of asking put the same cache in front of such an offer, so everything
that the cache does is proved once, about `throughCache`. A resolution is then a function of the
outcomes of its one or two attempts, and no later proof opens `resolve`.
-/

namespace EditImpact.Baseline

set_option autoImplicit false

/-- A text that a source has, and the commit that it is from. -/
structure Offer where
  text : Text.Given
  commit : Option String := none
  deriving DecidableEq

/-- An answer of version control that has to be there. -/
def required {Answer : Type} (missing : Skip) : Except String (Option Answer) → Except Skip Answer
  | .error message => .error (.gitProblem message)
  | .ok none => .error missing
  | .ok (some answer) => .ok answer

theorem required_eq_ok_iff {Answer : Type} (missing : Skip)
    (answer : Except String (Option Answer)) (item : Answer) :
    required missing answer = .ok item ↔ answer = .ok (some item) := by
  rcases answer with message | _ | found <;> simp [required]

namespace Vcs

/-- The commit that the head points to. -/
def headId (vcs : Vcs) : Except Skip String := required .refUnavailable vcs.currentRef

/-- The text of a file at the common ancestor of the head and a target. -/
def mergeBaseOffer (vcs : Vcs) (path : Path) (target : String) : Except Skip Offer :=
  match required .mergeBaseUnavailable (vcs.mergeBase target) with
  | .error skip => .error skip
  | .ok base =>
    match required .mergeBaseUnavailable (vcs.readAt path base) with
    | .error skip => .error skip
    | .ok text => .ok ⟨Text.given text, some base⟩

/-- The text of a tracked file at a head. -/
def headOffer (vcs : Vcs) (path : Path) (head : String) : Except Skip Offer :=
  match vcs.isTracked path with
  | .error message => .error (.gitProblem message)
  | .ok false => .error .notTracked
  | .ok true =>
    match required .notAtRef (vcs.readAt path head) with
    | .error skip => .error skip
    | .ok text => .ok ⟨Text.given text, some head⟩

theorem head_id_eq_ok_iff (vcs : Vcs) (head : String) :
    vcs.headId = .ok head ↔ vcs.currentRef = .ok (some head) :=
  required_eq_ok_iff _ _ _

theorem merge_base_offer_eq_ok_iff (vcs : Vcs) (path : Path) (target : String) (offer : Offer) :
    vcs.mergeBaseOffer path target = .ok offer ↔
      ∃ base text, vcs.mergeBase target = .ok (some base) ∧
        vcs.readAt path base = .ok (some text) ∧ offer = ⟨Text.given text, some base⟩ := by
  unfold mergeBaseOffer
  rcases vcs.mergeBase target with message | _ | base
  · simp [required]
  · simp [required]
  · rcases read : vcs.readAt path base with message | _ | text
    · simp [required, read]
    · simp [required, read]
    · simp [required, read, eq_comm]

theorem head_offer_eq_ok_iff (vcs : Vcs) (path : Path) (head : String) (offer : Offer) :
    vcs.headOffer path head = .ok offer ↔
      vcs.isTracked path = .ok true ∧ ∃ text, vcs.readAt path head = .ok (some text) ∧
        offer = ⟨Text.given text, some head⟩ := by
  unfold headOffer
  rcases vcs.isTracked path with message | _ | _
  · simp
  · simp
  · rcases vcs.readAt path head with message | _ | text
    · simp [required]
    · simp [required]
    · simp [required, eq_comm]

theorem commit_of_head_offer (vcs : Vcs) {path : Path} {head : String} {offer : Offer}
    (offered : vcs.headOffer path head = .ok offer) : offer.commit = some head := by
  obtain ⟨-, text, -, rfl⟩ := (vcs.head_offer_eq_ok_iff path head offer).mp offered
  rfl

end Vcs

/-- The baseline from the common ancestor with a target. -/
def mergeBaseBaseline (target : String) (offer : Offer) : Resolved where
  text := offer.text
  resolution :=
    { kind := .mergeBase, available := true, refName := some target, commit := offer.commit }

/-- The baseline from the head, with why the common ancestor was passed over. -/
def headBaseline (skipped : Option Skip) (offer : Offer) : Resolved where
  text := offer.text
  resolution :=
    { kind := .head, available := true, refName := some "HEAD", commit := offer.commit
      reason := skipped.map .skipped }

/-- A cache in front of what has to be computed afresh for each head. -/
def throughCache (refs : RefCache) (key : RefKey) (head : Except Skip String)
    (fresh : String → Except Skip Resolved) : Except Skip Resolved × RefCache :=
  match head with
  | .error skip => (.error skip, refs)
  | .ok head =>
    match refs.held key head with
    | some cached => (.ok cached, refs)
    | none =>
      match fresh head with
      | .error skip => (.error skip, (refs.lookup key (some head)).2)
      | .ok baseline =>
        (.ok baseline, RefCache.store (refs.lookup key (some head)).2 key head baseline)

theorem through_cache_empty (key : RefKey) (head : Except Skip String)
    (fresh : String → Except Skip Resolved) :
    (throughCache {} key head fresh).1 = head.bind fresh := by
  rcases head with skip | head
  · rfl
  · simp only [throughCache, RefCache.held_empty, Except.bind]
    cases fresh head <;> rfl

theorem through_cache_empty_skipped (key : RefKey) (head : Except Skip String)
    (fresh : String → Except Skip Resolved) (skip : Skip)
    (skipped : (throughCache {} key head fresh).1 = .error skip) :
    (throughCache {} key head fresh).2 = {} := by
  rcases head with reason | head
  · rfl
  · simp only [throughCache, RefCache.held_empty] at skipped ⊢
    cases computed : fresh head with
    | error reason => rfl
    | ok baseline => simp [computed] at skipped

/-- What comes through a cache was held for the current head, or is fresh. -/
theorem through_cache_eq_ok_iff (refs : RefCache) (key : RefKey) (head : Except Skip String)
    (fresh : String → Except Skip Resolved) (baseline : Resolved) :
    (throughCache refs key head fresh).1 = .ok baseline ↔
      ∃ id, head = .ok id ∧ (refs.held key id = some baseline ∨
        refs.held key id = none ∧ fresh id = .ok baseline) := by
  rcases head with skip | id
  · simp [throughCache]
  · simp only [throughCache, Except.ok.injEq, exists_eq_left']
    cases held : refs.held key id with
    | some cached => simp
    | none => cases computed : fresh id <;> simp

theorem through_cache_eq_error_iff (refs : RefCache) (key : RefKey) (head : Except Skip String)
    (fresh : String → Except Skip Resolved) (skip : Skip) :
    (throughCache refs key head fresh).1 = .error skip ↔
      head = .error skip ∨
        ∃ id, head = .ok id ∧ refs.held key id = none ∧ fresh id = .error skip := by
  rcases head with reason | id
  · simp [throughCache]
  · simp only [throughCache, Except.ok.injEq, exists_eq_left', reduceCtorEq, false_or]
    cases held : refs.held key id with
    | some cached => simp
    | none => cases computed : fresh id <;> simp

/-- A cache cannot be seen where what it holds for the head is what would be computed. -/
theorem through_cache_transparent (refs : RefCache) (key : RefKey) (head : Except Skip String)
    (fresh : String → Except Skip Resolved)
    (faithful : ∀ id baseline, head = .ok id → refs.held key id = some baseline →
      fresh id = .ok baseline) :
    (throughCache refs key head fresh).1 = (throughCache {} key head fresh).1 := by
  rw [through_cache_empty]
  rcases head with skip | id
  · rfl
  · simp only [throughCache, Except.bind]
    cases held : refs.held key id with
    | some cached => exact (faithful id cached rfl held).symm
    | none => cases fresh id <;> rfl

/-- An entry after an attempt was there before, or the attempt computed it for the current head. -/
theorem get_through_cache (refs : RefCache) (key : RefKey) (head : Except Skip String)
    (fresh : String → Except Skip Resolved) (name : RefKey) (entry : RefEntry)
    (stored : Store.get? (throughCache refs key head fresh).2 name = some entry) :
    Store.get? refs name = some entry ∨
      name = key ∧ head = .ok entry.head ∧ refs.held key entry.head = none ∧
        fresh entry.head = .ok entry.baseline := by
  rcases head with skip | id
  · exact .inl stored
  · simp only [throughCache] at stored
    cases held : refs.held key id with
    | some cached =>
        rw [held] at stored
        exact .inl stored
    | none =>
        have kept := refs.get_lookup_missed key name id held
        rw [held] at stored
        cases computed : fresh id with
        | error skip =>
            simp only [computed, kept] at stored
            split at stored
            · cases stored
            · exact .inl stored
        | ok baseline =>
            simp only [computed, RefCache.get_store, kept] at stored
            split at stored
            · next same =>
                cases stored
                exact .inr ⟨same, rfl, held, computed⟩
            · exact .inl stored

/-- An attempt leaves the entries under other keys alone. -/
theorem get_through_cache_other (refs : RefCache) (key : RefKey) (head : Except Skip String)
    (fresh : String → Except Skip Resolved) {name : RefKey} (different : name ≠ key) :
    Store.get? (throughCache refs key head fresh).2 name = Store.get? refs name := by
  rcases head with skip | id
  · rfl
  · simp only [throughCache]
    cases held : refs.held key id with
    | some cached => rfl
    | none =>
        have kept := refs.get_lookup_missed key name id held
        rw [if_neg different] at kept
        cases fresh id with
        | error skip => exact kept
        | ok baseline =>
            simp only [RefCache.get_store, if_neg different]
            exact kept

/-- What an attempt came to and the cache it leaves, without the questions. -/
def GitAttempt.result (attempt : GitAttempt) : Except Skip Resolved × RefCache :=
  (attempt.outcome, attempt.refs)

@[simp] theorem GitAttempt.result_ask_ok {Answer : Type} (refs : RefCache) (question : Question)
    (answer : Answer) (next : Answer → GitAttempt) :
    (GitAttempt.ask refs question (.ok answer) next).result = (next answer).result := rfl

/-- Asking behind a cache is `throughCache`, for whatever is computed behind it. -/
theorem with_head_result (vcs : Vcs) (refs : RefCache) (key : RefKey)
    (uncached : RefCache → String → GitAttempt) (fresh : String → Except Skip Resolved)
    (computes : ∀ refs head, (uncached refs head).result =
      match fresh head with
      | .error skip => (.error skip, refs)
      | .ok baseline => (.ok baseline, RefCache.store refs key head baseline)) :
    (withHead vcs refs key uncached).result = throughCache refs key vcs.headId fresh := by
  unfold withHead throughCache Vcs.headId
  rcases vcs.currentRef with message | _ | head
  · rfl
  · rfl
  · simp only [GitAttempt.result_ask_ok, required]
    cases held : refs.held key head with
    | some cached =>
        rw [refs.lookup_found key head cached held]
        rfl
    | none =>
        have missed := refs.lookup_answer key head
        rw [held] at missed
        have split : refs.lookup key (some head) = (none, (refs.lookup key (some head)).2) :=
          Prod.ext missed rfl
        rw [split]
        exact computes _ head

theorem from_merge_base_result (vcs : Vcs) (refs : RefCache) (request : Request) :
    (fromMergeBase vcs refs request).result =
      throughCache refs (mergeBaseKey vcs request) vcs.headId fun _ =>
        (vcs.mergeBaseOffer request.path request.target).map
          (mergeBaseBaseline request.target) := by
  apply with_head_result
  intro refs head
  unfold Vcs.mergeBaseOffer
  rcases vcs.mergeBase request.target with message | _ | base
  · rfl
  · rfl
  · simp only [GitAttempt.result_ask_ok, required]
    rcases vcs.readAt request.path base with message | _ | text <;> rfl

theorem from_head_result (vcs : Vcs) (refs : RefCache) (request : Request) (skipped : Option Skip) :
    (fromHead vcs refs request skipped).result =
      throughCache refs (headKey vcs request) vcs.headId fun head =>
        (vcs.headOffer request.path head).map (headBaseline skipped) := by
  apply with_head_result
  intro refs head
  unfold Vcs.headOffer
  rcases vcs.isTracked request.path with message | _ | _
  · rfl
  · rfl
  · simp only [GitAttempt.result_ask_ok]
    rcases vcs.readAt request.path head with message | _ | text <;> rfl

theorem git_source_eq_ok_iff (settings : Settings.Baseline) (vcs : Option Vcs) (client : Vcs) :
    gitSource settings vcs = .ok client ↔ settings.useGit = true ∧ vcs = some client := by
  unfold gitSource
  cases settings.useGit <;> cases vcs <;> simp

/-- A cache in front of version control, if this may be asked at all. Both ways of asking, for the
common ancestor and for the head, are of this form. -/
def throughGit (settings : Settings.Baseline) (vcs : Option Vcs) (refs : RefCache)
    (key : Vcs → RefKey) (fresh : Vcs → String → Except Skip Resolved) :
    Except Skip Resolved × RefCache :=
  match gitSource settings vcs with
  | .error skip => (.error skip, refs)
  | .ok vcs => throughCache refs (key vcs) vcs.headId (fresh vcs)

section ThroughGit

variable {settings : Settings.Baseline} {vcs : Option Vcs} {refs : RefCache} {key : Vcs → RefKey}
  {fresh : Vcs → String → Except Skip Resolved}

theorem through_git_answered {baseline : Resolved}
    (answered : (throughGit settings vcs refs key fresh).1 = .ok baseline) :
    ∃ client head, gitSource settings vcs = .ok client ∧ client.currentRef = .ok (some head) ∧
      (refs.held (key client) head = some baseline ∨ fresh client head = .ok baseline) := by
  unfold throughGit at answered
  cases asked : gitSource settings vcs with
  | error skip =>
      rw [asked] at answered
      cases answered
  | ok client =>
      rw [asked] at answered
      obtain ⟨head, known, source⟩ := (through_cache_eq_ok_iff _ _ _ _ baseline).mp answered
      refine ⟨client, head, rfl, (client.head_id_eq_ok_iff head).mp known, ?_⟩
      exact source.imp_right And.right

/-- Without an answer at a head, nothing was cached for it and nothing could be computed. -/
theorem through_git_skipped {client : Vcs} {head : String} {skip : Skip}
    (asked : gitSource settings vcs = .ok client) (current : client.currentRef = .ok (some head))
    (skipped : (throughGit settings vcs refs key fresh).1 = .error skip) :
    refs.held (key client) head = none ∧ fresh client head = .error skip := by
  simp only [throughGit, asked, through_cache_eq_error_iff] at skipped
  have known := (client.head_id_eq_ok_iff head).mpr current
  rcases skipped with failed | ⟨id, found, missed, computed⟩
  · rw [known] at failed
    cases failed
  · rw [known] at found
    cases found
    exact ⟨missed, computed⟩

/-- An entry afterwards was there before, or was computed at the current head. -/
theorem get_through_git {name : RefKey} {entry : RefEntry}
    (stored : Store.get? (throughGit settings vcs refs key fresh).2 name = some entry) :
    Store.get? refs name = some entry ∨
      ∃ client, gitSource settings vcs = .ok client ∧
        client.currentRef = .ok (some entry.head) ∧ key client = name ∧
        fresh client entry.head = .ok entry.baseline := by
  unfold throughGit at stored
  cases asked : gitSource settings vcs with
  | error skip =>
      rw [asked] at stored
      exact .inl stored
  | ok client =>
      rw [asked] at stored
      rcases get_through_cache _ _ _ _ name entry stored with before | ⟨rfl, head, -, computed⟩
      · exact .inl before
      · exact .inr ⟨client, rfl, (client.head_id_eq_ok_iff _).mp head, rfl, computed⟩

/-- The cache cannot be seen where what it holds for the head is what would be computed. -/
theorem through_git_transparent
    (faithful : ∀ client head baseline, gitSource settings vcs = .ok client →
      client.currentRef = .ok (some head) → refs.held (key client) head = some baseline →
      fresh client head = .ok baseline) :
    (throughGit settings vcs refs key fresh).1 = (throughGit settings vcs {} key fresh).1 := by
  unfold throughGit
  cases asked : gitSource settings vcs with
  | error skip => rfl
  | ok client =>
      apply through_cache_transparent
      intro head baseline known held
      exact faithful client head baseline asked ((client.head_id_eq_ok_iff head).mp known) held

end ThroughGit

/-- Asks for the common ancestor, if version control may be asked at all. -/
def mergeBaseAttempt (settings : Settings.Baseline) (vcs : Option Vcs) (refs : RefCache)
    (request : Request) : Except Skip Resolved × RefCache :=
  match gitSource settings vcs with
  | .error skip => (.error skip, refs)
  | .ok vcs =>
    throughCache refs (mergeBaseKey vcs request) vcs.headId fun _ =>
      (vcs.mergeBaseOffer request.path request.target).map (mergeBaseBaseline request.target)

/-- Asks for the head, if version control may be asked at all. -/
def headAttempt (settings : Settings.Baseline) (vcs : Option Vcs) (refs : RefCache)
    (request : Request) (skipped : Option Skip) : Except Skip Resolved × RefCache :=
  match gitSource settings vcs with
  | .error skip => (.error skip, refs)
  | .ok vcs =>
    throughCache refs (headKey vcs request) vcs.headId fun head =>
      (vcs.headOffer request.path head).map (headBaseline skipped)

theorem merge_base_attempt_eq (settings : Settings.Baseline) (vcs : Option Vcs) (refs : RefCache)
    (request : Request) :
    mergeBaseAttempt settings vcs refs request =
      throughGit settings vcs refs (mergeBaseKey · request) fun client _ =>
        (client.mergeBaseOffer request.path request.target).map
          (mergeBaseBaseline request.target) := rfl

theorem head_attempt_eq (settings : Settings.Baseline) (vcs : Option Vcs) (refs : RefCache)
    (request : Request) (skipped : Option Skip) :
    headAttempt settings vcs refs request skipped =
      throughGit settings vcs refs (headKey · request) fun client head =>
        (client.headOffer request.path head).map (headBaseline skipped) := rfl

/-- A target that is not spelled like the head. It only counts in `pr` mode. -/
def Request.Distinct (request : Request) : Prop := request.mode = .pr → request.target ≠ "HEAD"

theorem mode_eq_of_head_key {vcs other : Vcs} {request again : Request}
    (keys : headKey vcs request = headKey other again) : request.mode = again.mode := by
  have names := congrArg RefKey.mode keys
  cases first : request.mode <;> cases second : again.mode <;>
    simp [headKey, first, second, Settings.Mode.name] at names ⊢

/-- The reason that a request hands on to the head: none, or why the common ancestor was passed
over. -/
def PassedOver (vcs : Vcs) (request : Request) : Option Skip → Prop
  | none => request.mode = .local
  | some skip =>
    request.mode = .pr ∧ vcs.mergeBaseOffer request.path request.target = .error skip

/-- The request hands a reason on to the head that is true of version control as it is asked. -/
def HandsOn (settings : Settings.Baseline) (vcs : Option Vcs) (request : Request)
    (skipped : Option Skip) : Prop :=
  ∀ client head, gitSource settings vcs = .ok client → client.currentRef = .ok (some head) →
    PassedOver client request skipped

section Inversion

variable {settings : Settings.Baseline} {vcs : Option Vcs} {refs : RefCache} {request : Request}

theorem map_eq_ok {Error Item Result : Type} {outcome : Except Error Item} {f : Item → Result}
    {result : Result} (mapped : outcome.map f = .ok result) :
    ∃ item, outcome = .ok item ∧ result = f item := by
  cases outcome with
  | error problem => cases mapped
  | ok item => exact ⟨item, rfl, (Except.ok.inj mapped).symm⟩

theorem map_eq_error {Error Item Result : Type} {outcome : Except Error Item} {f : Item → Result}
    {problem : Error} (mapped : outcome.map f = .error problem) : outcome = .error problem := by
  cases outcome with
  | error reason =>
      cases mapped
      rfl
  | ok item => cases mapped

theorem merge_base_attempt_answered {baseline : Resolved}
    (answered : (mergeBaseAttempt settings vcs refs request).1 = .ok baseline) :
    ∃ client head, gitSource settings vcs = .ok client ∧ client.currentRef = .ok (some head) ∧
      (refs.held (mergeBaseKey client request) head = some baseline ∨
        ∃ found, client.mergeBaseOffer request.path request.target = .ok found ∧
          baseline = mergeBaseBaseline request.target found) := by
  rw [merge_base_attempt_eq] at answered
  obtain ⟨client, head, asked, current, source⟩ := through_git_answered answered
  exact ⟨client, head, asked, current, source.imp_right map_eq_ok⟩

theorem head_attempt_answered {skipped : Option Skip} {baseline : Resolved}
    (answered : (headAttempt settings vcs refs request skipped).1 = .ok baseline) :
    ∃ client head, gitSource settings vcs = .ok client ∧ client.currentRef = .ok (some head) ∧
      (refs.held (headKey client request) head = some baseline ∨
        ∃ found, client.headOffer request.path head = .ok found ∧
          baseline = headBaseline skipped found) := by
  rw [head_attempt_eq] at answered
  obtain ⟨client, head, asked, current, source⟩ := through_git_answered answered
  exact ⟨client, head, asked, current, source.imp_right map_eq_ok⟩

/-- A common ancestor that is passed over at a head was not cached for it and cannot be had. -/
theorem merge_base_attempt_skipped {client : Vcs} {head : String} {skip : Skip}
    (asked : gitSource settings vcs = .ok client) (current : client.currentRef = .ok (some head))
    (skipped : (mergeBaseAttempt settings vcs refs request).1 = .error skip) :
    refs.held (mergeBaseKey client request) head = none ∧
      client.mergeBaseOffer request.path request.target = .error skip := by
  rw [merge_base_attempt_eq] at skipped
  exact (through_git_skipped asked current skipped).imp_right map_eq_error

theorem hands_on_of_merge_base_skipped (mode : request.mode = .pr) {skip : Skip}
    (skipped : (mergeBaseAttempt settings vcs refs request).1 = .error skip) :
    HandsOn settings vcs request (some skip) := by
  intro client head asked current
  exact ⟨mode, (merge_base_attempt_skipped asked current skipped).2⟩

/-- Passing the common ancestor over leaves what is cached for the head, unless the target is called
like it: then nothing is left. -/
theorem held_after_merge_base_skipped {client : Vcs} {head : String} {skip : Skip}
    (asked : gitSource settings vcs = .ok client) (current : client.currentRef = .ok (some head))
    (mode : request.mode = .pr)
    (skipped : (mergeBaseAttempt settings vcs refs request).1 = .error skip) :
    (mergeBaseAttempt settings vcs refs request).2.held (headKey client request) head =
      if request.target = "HEAD" then none else refs.held (headKey client request) head := by
  obtain ⟨missed, refused⟩ := merge_base_attempt_skipped asked current skipped
  have known := (client.head_id_eq_ok_iff head).mpr current
  split
  · next same =>
      have keys : headKey client request = mergeBaseKey client request := by
        simp [headKey, mergeBaseKey, mode, same]
      simp only [mergeBaseAttempt, asked, throughCache, known, missed, refused, Except.map]
      unfold RefCache.held
      rw [refs.get_lookup_missed _ _ head missed, if_pos keys]
  · next different =>
      have keys : headKey client request ≠ mergeBaseKey client request := by
        intro same
        simp only [headKey, mergeBaseKey, RefKey.mk.injEq] at same
        exact different same.2.2.2.symm
      simp only [mergeBaseAttempt, asked]
      unfold RefCache.held
      rw [get_through_cache_other refs _ _ _ keys]

end Inversion

section Making

variable (settings : Settings.Baseline) (vcs : Option Vcs) (request : Request) (key : RefKey)
  (entry : RefEntry)

/-- A request computes an entry at the common ancestor with its target. -/
def MadeAtMergeBase : Prop :=
  ∃ client found, gitSource settings vcs = .ok client ∧
    client.currentRef = .ok (some entry.head) ∧ request.mode = .pr ∧
    mergeBaseKey client request = key ∧
    client.mergeBaseOffer request.path request.target = .ok found ∧
    entry.baseline = mergeBaseBaseline request.target found

/-- A request computes an entry at the head. -/
def MadeAtHead : Prop :=
  ∃ client found skipped, gitSource settings vcs = .ok client ∧
    client.currentRef = .ok (some entry.head) ∧ headKey client request = key ∧
    PassedOver client request skipped ∧ client.headOffer request.path entry.head = .ok found ∧
    entry.baseline = headBaseline skipped found

/-- A request computes an entry. -/
def Made : Prop :=
  MadeAtMergeBase settings vcs request key entry ∨ MadeAtHead settings vcs request key entry

variable {settings vcs request key entry} {refs : RefCache}

theorem get_merge_base_attempt (mode : request.mode = .pr)
    (stored : Store.get? (mergeBaseAttempt settings vcs refs request).2 key = some entry) :
    Store.get? refs key = some entry ∨ MadeAtMergeBase settings vcs request key entry := by
  rw [merge_base_attempt_eq] at stored
  refine (get_through_git stored).imp_right ?_
  rintro ⟨client, asked, current, keys, computed⟩
  obtain ⟨found, offered, baseline⟩ := map_eq_ok computed
  exact ⟨client, found, asked, current, mode, keys, offered, baseline⟩

theorem get_head_attempt {skipped : Option Skip} (handed : HandsOn settings vcs request skipped)
    (stored : Store.get? (headAttempt settings vcs refs request skipped).2 key = some entry) :
    Store.get? refs key = some entry ∨ MadeAtHead settings vcs request key entry := by
  rw [head_attempt_eq] at stored
  refine (get_through_git stored).imp_right ?_
  rintro ⟨client, asked, current, keys, computed⟩
  obtain ⟨found, offered, baseline⟩ := map_eq_ok computed
  exact ⟨client, found, skipped, asked, current, keys, handed client _ asked current, offered,
    baseline⟩

end Making

/-- What is left to do once the head was asked for. -/
def afterHead (settings : Settings.Baseline) (files : Files.FileSystem) (snapshots : Snapshots)
    (request : Request) : Except Skip Resolved × RefCache → Resolved × Caches
  | (.ok baseline, refs) => (baseline, ⟨snapshots, refs⟩)
  | (.error skip, refs) => withoutGit settings files ⟨snapshots, refs⟩ request skip

/-- What is done without version control does not depend on its cache and leaves it alone. -/
theorem without_git_refs (settings : Settings.Baseline) (files : Files.FileSystem)
    (snapshots : Snapshots) (refs : RefCache) (request : Request) (skip : Skip) :
    withoutGit settings files ⟨snapshots, refs⟩ request skip =
      ((withoutGit settings files ⟨snapshots, {}⟩ request skip).1,
        ⟨(withoutGit settings files ⟨snapshots, {}⟩ request skip).2.snapshots, refs⟩) := by
  unfold withoutGit withoutSnapshot Caches.remember
  cases settings.keepSnapshots <;> cases snapshots.get? request.path.toString <;>
    cases files.read request.path <;> rfl

theorem without_git_kind (settings : Settings.Baseline) (files : Files.FileSystem)
    (caches : Caches) (request : Request) (skip : Skip) :
    (withoutGit settings files caches request skip).1.resolution.kind = .snapshot ∨
      (withoutGit settings files caches request skip).1.resolution.kind = .none := by
  unfold withoutGit withoutSnapshot
  cases settings.keepSnapshots <;> cases caches.snapshots.get? request.path.toString <;>
    cases files.read request.path <;> simp [fromDisk]

theorem after_head_refs (settings : Settings.Baseline) (files : Files.FileSystem)
    (snapshots : Snapshots) (request : Request) (attempt : Except Skip Resolved × RefCache) :
    (afterHead settings files snapshots request attempt).2.refs = attempt.2 := by
  obtain ⟨outcome, refs⟩ := attempt
  cases outcome with
  | ok baseline => rfl
  | error skip => simp only [afterHead, without_git_refs settings files snapshots refs]

/-- What follows depends on the outcome of an attempt and not on the cache that it leaves. -/
theorem after_head_congr (settings : Settings.Baseline) (files : Files.FileSystem)
    (snapshots : Snapshots) (request : Request) {attempt other : Except Skip Resolved × RefCache}
    (same : attempt.1 = other.1) :
    (afterHead settings files snapshots request attempt).1 =
        (afterHead settings files snapshots request other).1 ∧
      (afterHead settings files snapshots request attempt).2.snapshots =
        (afterHead settings files snapshots request other).2.snapshots := by
  obtain ⟨outcome, refs⟩ := attempt
  obtain ⟨otherOutcome, otherRefs⟩ := other
  subst same
  cases outcome with
  | ok baseline => exact ⟨rfl, rfl⟩
  | error skip =>
      simp only [afterHead, without_git_refs settings files snapshots refs,
        without_git_refs settings files snapshots otherRefs, and_self]

def Outcome.result (outcome : Outcome) : Resolved × Caches := (outcome.baseline, outcome.caches)

theorem from_head_on_result (settings : Settings.Baseline) (around : Surroundings)
    (caches : Caches) (request : Request) (skipped : Option Skip) :
    (fromHeadOn settings around caches request skipped).result =
      afterHead settings around.files caches.snapshots request
        (headAttempt settings around.vcs caches.refs request skipped) := by
  unfold fromHeadOn headAttempt attemptGit
  cases gitSource settings around.vcs with
  | error skip => rfl
  | ok vcs =>
      dsimp only
      rw [← from_head_result]
      cases attempted : (fromHead vcs caches.refs request skipped).outcome with
      | error skip => simp [GitAttempt.result, attempted, afterHead, Outcome.result]
      | ok baseline => simp [GitAttempt.result, attempted, afterHead, Outcome.result]

theorem resolve_local (settings : Settings.Baseline) (around : Surroundings) (caches : Caches)
    (request : Request) (mode : request.mode = .local) :
    (resolve settings around caches request).result =
      afterHead settings around.files caches.snapshots request
        (headAttempt settings around.vcs caches.refs request none) := by
  rw [← from_head_on_result]
  simp [resolve, mode]

theorem resolve_pr (settings : Settings.Baseline) (around : Surroundings) (caches : Caches)
    (request : Request) (mode : request.mode = .pr) :
    (resolve settings around caches request).result =
      match mergeBaseAttempt settings around.vcs caches.refs request with
      | (.ok baseline, refs) => (baseline, ⟨caches.snapshots, refs⟩)
      | (.error skip, refs) =>
        afterHead settings around.files caches.snapshots request
          (headAttempt settings around.vcs refs request (some skip)) := by
  unfold resolve mergeBaseAttempt attemptGit
  simp only [mode]
  cases gitSource settings around.vcs with
  | error skip => exact from_head_on_result settings around caches request (some skip)
  | ok vcs =>
      dsimp only
      rw [← from_merge_base_result]
      cases attempted : (fromMergeBase vcs caches.refs request).outcome with
      | ok baseline => simp [GitAttempt.result, attempted, Outcome.result]
      | error skip =>
          simp only [GitAttempt.result, attempted]
          exact from_head_on_result settings around _ request (some skip)

/-- An entry after a resolution was there before, or the resolution computed it. -/
theorem get_resolve {settings : Settings.Baseline} {around : Surroundings} {caches : Caches}
    {request : Request} {key : RefKey} {entry : RefEntry}
    (stored : Store.get? (resolve settings around caches request).caches.refs key = some entry) :
    Store.get? caches.refs key = some entry ∨ Made settings around.vcs request key entry := by
  change Store.get? (resolve settings around caches request).result.2.refs key = some entry
    at stored
  cases mode : request.mode with
  | «local» =>
      rw [resolve_local settings around caches request mode, after_head_refs] at stored
      have handed : HandsOn settings around.vcs request none := fun _ _ _ _ => mode
      exact (get_head_attempt handed stored).imp_right .inr
  | pr =>
      rw [resolve_pr settings around caches request mode] at stored
      rcases attempted : mergeBaseAttempt settings around.vcs caches.refs request with
        ⟨outcome, refs⟩
      rw [attempted] at stored
      have earlier (before : Store.get? refs key = some entry) :
          Store.get? caches.refs key = some entry ∨ Made settings around.vcs request key entry := by
        refine (get_merge_base_attempt mode ?_).imp_right .inl
        rw [attempted]
        exact before
      cases outcome with
      | ok baseline => exact earlier stored
      | error skip =>
          simp only [after_head_refs] at stored
          have handed : HandsOn settings around.vcs request (some skip) :=
            hands_on_of_merge_base_skipped mode (by rw [attempted])
          rcases get_head_attempt handed stored with before | made
          · exact earlier before
          · exact .inr (.inr made)

theorem record_refs (settings : Settings.Baseline) (caches : Caches) (path : Path)
    (text : List Char) (resolution : Resolution) :
    (record settings caches path text resolution).refs = caches.refs := by
  unfold record Caches.remember
  cases settings.keepSnapshots <;> split <;> rfl

/-- Files none of which can be read, and no reason given. -/
def unreadableFiles : Files.FileSystem where
  resolve path := .ok path.resolve
  read _ := .error none
  size _ := none
  listings := []

end EditImpact.Baseline
