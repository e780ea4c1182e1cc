import EditImpact.Proofs.Baseline.Attempts

/-!
# Where cached baselines come from

Version control may answer anything at any time here, so a cached baseline can only be traced to the
resolution that computed it. The common ancestor with a target and the head are cached under keys
that differ in their last part, which is the target for the one and `"HEAD"` for the other. In `pr`
mode a target that is itself called `"HEAD"` makes the two keys one, and all other targets share the
entry of the head, with the reason that the first of them was given. `Crossed` says when a
resolution meets such an entry of another's making; the answers are attributed correctly exactly
when it does not.
-/

namespace EditImpact.Baseline

set_option autoImplicit false

/-- One resolution of a run. -/
structure Visit where
  around : Surroundings
  request : Request

/-- The caches after some resolutions, starting from nothing. -/
def cachesAfter (settings : Settings.Baseline) (visits : List Visit) : Caches :=
  visits.foldl (fun caches visit => (resolve settings visit.around caches visit.request).caches) {}

/-- Every entry was made by one of the visits. -/
def Traced (settings : Settings.Baseline) (visits : List Visit) (refs : RefCache) : Prop :=
  ∀ key entry, Store.get? refs key = some entry →
    ∃ visit ∈ visits, Made settings visit.around.vcs visit.request key entry

section Tracing

variable {settings : Settings.Baseline} {visits : List Visit} {refs : RefCache}

theorem traced_later (traced : Traced settings visits refs) (visit : Visit) :
    Traced settings (visits ++ [visit]) refs := by
  intro key entry stored
  obtain ⟨maker, member, made⟩ := traced key entry stored
  exact ⟨maker, List.mem_append_left _ member, made⟩

theorem resolve_traced {caches : Caches} (visit : Visit)
    (traced : Traced settings visits caches.refs) :
    Traced settings (visits ++ [visit])
      (resolve settings visit.around caches visit.request).caches.refs := by
  intro key entry stored
  rcases get_resolve stored with before | made
  · exact traced_later traced visit key entry before
  · exact ⟨visit, by simp, made⟩

theorem run_traced {caches : Caches} (later : List Visit)
    (traced : Traced settings visits caches.refs) :
    Traced settings (visits ++ later)
      (later.foldl (fun caches visit =>
        (resolve settings visit.around caches visit.request).caches) caches).refs := by
  induction later generalizing visits caches with
  | nil => simpa using traced
  | cons visit rest ih =>
      have next := ih (resolve_traced visit traced)
      simpa [Outcome.result] using next

theorem caches_after_traced (settings : Settings.Baseline) (visits : List Visit) :
    Traced settings visits (cachesAfter settings visits).refs := by
  have started : Traced settings [] ({} : Caches).refs := by
    intro key entry stored
    cases stored
  have reached := run_traced visits started
  rw [List.nil_append] at reached
  exact reached

end Tracing

/-- The way of asking version control that gave the answer of a resolution, if one did. -/
def answeredAt (settings : Settings.Baseline) (around : Surroundings) (refs : RefCache)
    (request : Request) : Option RefKind :=
  match request.mode with
  | .local =>
    match (headAttempt settings around.vcs refs request none).1 with
    | .ok _ => some .head
    | .error _ => none
  | .pr =>
    match mergeBaseAttempt settings around.vcs refs request with
    | (.ok _, _) => some .mergeBase
    | (.error skip, refs) =>
      match (headAttempt settings around.vcs refs request (some skip)).1 with
      | .ok _ => some .head
      | .error _ => none

/-- What a resolution after some others says about its baseline is true: a common ancestor is the
one with the own target, as it was computed at this head; the head is the current one, with why the
own target was passed over; and no way of asking answers with what the other one cached. -/
structure Attributed (settings : Settings.Baseline) (earlier : List Visit) (visit : Visit)
    (resolution : Resolution) (text : Text.Given) : Prop where
  ancestor : resolution.kind = .mergeBase → visit.request.mode = .pr →
    resolution.refName = some visit.request.target ∧
      ∃ maker ∈ earlier ++ [visit], ∃ vcs base content,
        maker.request.path.toString = visit.request.path.toString ∧
        maker.around.vcs = some vcs ∧ vcs.mergeBase visit.request.target = .ok (some base) ∧
        vcs.readAt maker.request.path base = .ok (some content) ∧ text = Text.given content ∧
        resolution.commit = some base
  head : resolution.kind = .head →
    resolution.refName = some "HEAD" ∧
      ∃ vcs id, visit.around.vcs = some vcs ∧ vcs.currentRef = .ok (some id) ∧
        resolution.commit = some id ∧
        (visit.request.mode = .pr → ∃ skip,
          vcs.mergeBaseOffer visit.request.path visit.request.target = .error skip ∧
            resolution.reason = some (.skipped skip))
  own : ∀ kind,
    answeredAt settings visit.around (cachesAfter settings earlier).refs visit.request = some kind →
      resolution.kind = kind

/-- The resolution meets an entry that it did not ask for: a target called `"HEAD"` finds what was
cached for the head, or a target that is passed over finds, in place of the head with its own
reason, a common ancestor or the reason of another target. -/
def Crossed (settings : Settings.Baseline) (around : Surroundings) (refs : RefCache)
    (request : Request) : Prop :=
  request.mode = .pr ∧ ∃ vcs head shared, gitSource settings around.vcs = .ok vcs ∧
    vcs.currentRef = .ok (some head) ∧ refs.held (headKey vcs request) head = some shared ∧
    ((request.target = "HEAD" ∧ shared.resolution.kind = .head) ∨
      (request.target ≠ "HEAD" ∧ refs.held (mergeBaseKey vcs request) head = none ∧
        ∃ skip, vcs.mergeBaseOffer request.path request.target = .error skip ∧
          ¬(shared.resolution.kind = .head ∧ shared.resolution.reason = some (.skipped skip))))

section Attribution

variable {settings : Settings.Baseline} {earlier : List Visit} {visit : Visit} {vcs : Vcs}
  {head : String} {baseline : Resolved}

theorem held_made {refs : RefCache} {key : RefKey} (traced : Traced settings earlier refs)
    (held : refs.held key head = some baseline) :
    ∃ maker ∈ earlier, Made settings maker.around.vcs maker.request key ⟨head, baseline⟩ :=
  traced key _ ((refs.held_eq_some_iff key head baseline).mp held)

theorem merge_base_key_ne_local (maker : Visit) {other : Vcs}
    (mode : visit.request.mode = .local) :
    mergeBaseKey other maker.request ≠ headKey vcs visit.request := by
  intro same
  simp [mergeBaseKey, headKey, mode, Settings.Mode.name] at same

/-- An answer from neither way of asking version control is not attributed to it. -/
theorem attributed_without_git
    (unanswered : answeredAt settings visit.around (cachesAfter settings earlier).refs
      visit.request = none)
    (kind : baseline.resolution.kind = .snapshot ∨ baseline.resolution.kind = .none) :
    Attributed settings earlier visit baseline.resolution baseline.text := by
  constructor
  · intro versioned
    rcases kind with kind | kind <;> simp [kind] at versioned
  · intro versioned
    rcases kind with kind | kind <;> simp [kind] at versioned
  · intro way answered
    rw [unanswered] at answered
    cases answered

theorem attributed_ancestor
    (answered : answeredAt settings visit.around (cachesAfter settings earlier).refs
      visit.request = some .mergeBase)
    {maker : Visit} (member : maker ∈ earlier ++ [visit])
    (made : MadeAtMergeBase settings maker.around.vcs maker.request
      (mergeBaseKey vcs visit.request) ⟨head, baseline⟩) :
    Attributed settings earlier visit baseline.resolution baseline.text := by
  obtain ⟨client, found, asked, current, mode, keys, offered, same⟩ := made
  dsimp only at same
  subst same
  simp only [mergeBaseKey, RefKey.mk.injEq] at keys
  obtain ⟨-, path, -, target⟩ := keys
  obtain ⟨base, content, computed, read, rfl⟩ :=
    (client.merge_base_offer_eq_ok_iff _ _ found).mp offered
  rw [target] at computed
  have present := ((git_source_eq_ok_iff settings maker.around.vcs client).mp asked).2
  constructor
  · intro _ _
    exact ⟨by simp [mergeBaseBaseline, target],
      maker, member, client, base, content, path, present, computed, read, rfl, rfl⟩
  · intro kind
    simp [mergeBaseBaseline] at kind
  · intro way chosen
    rw [answered] at chosen
    exact Option.some.inj chosen

theorem attributed_head
    (answered : answeredAt settings visit.around (cachesAfter settings earlier).refs
      visit.request = some .head)
    (asked : gitSource settings visit.around.vcs = .ok vcs)
    (current : vcs.currentRef = .ok (some head)) {skipped : Option Skip} {found : Offer}
    (passed : PassedOver vcs visit.request skipped) (commit : found.commit = some head) :
    Attributed settings earlier visit (headBaseline skipped found).resolution found.text := by
  have present := ((git_source_eq_ok_iff settings visit.around.vcs vcs).mp asked).2
  constructor
  · intro kind
    simp [headBaseline] at kind
  · intro _
    refine ⟨rfl, vcs, head, present, current, commit, ?_⟩
    intro mode
    cases skipped with
    | none =>
        simp only [PassedOver] at passed
        rw [mode] at passed
        cases passed
    | some skip => exact ⟨skip, passed.2, rfl⟩
  · intro way chosen
    rw [answered] at chosen
    exact Option.some.inj chosen

/-- An entry of the head with the reason of the own target is as good as a fresh one. -/
theorem attributed_held_head {refs : RefCache} {skip : Skip}
    (answered : answeredAt settings visit.around (cachesAfter settings earlier).refs
      visit.request = some .head)
    (asked : gitSource settings visit.around.vcs = .ok vcs)
    (current : vcs.currentRef = .ok (some head)) (passed : PassedOver vcs visit.request (some skip))
    (traced : Traced settings earlier refs)
    (held : refs.held (headKey vcs visit.request) head = some baseline)
    (kind : baseline.resolution.kind = .head)
    (named : baseline.resolution.reason = some (.skipped skip)) :
    Attributed settings earlier visit baseline.resolution baseline.text := by
  obtain ⟨maker, -, made | made⟩ := held_made traced held
  · obtain ⟨-, found, -, -, -, -, -, same⟩ := made
    dsimp only at same
    rw [same] at kind
    cases kind
  · obtain ⟨client, found, skipped, -, -, -, -, offered, same⟩ := made
    dsimp only at same
    subst same
    have reason : skipped = some skip := by
      cases skipped with
      | none => cases named
      | some why =>
          simp only [headBaseline, Option.map_some, Option.some.injEq, Reason.skipped.injEq]
            at named
          rw [named]
    subst reason
    exact attributed_head answered asked current passed
      (client.commit_of_head_offer offered)

/-- Without a target there is nothing that another resolution could have put in the way. -/
theorem attributed_local (mode : visit.request.mode = .local) :
    let outcome := resolve settings visit.around (cachesAfter settings earlier) visit.request
    Attributed settings earlier visit outcome.baseline.resolution outcome.baseline.text := by
  intro outcome
  have traced := caches_after_traced settings earlier
  have resolved : outcome.result.1 = _ := congrArg Prod.fst
    (resolve_local settings visit.around (cachesAfter settings earlier) visit.request mode)
  change outcome.baseline = _ at resolved
  rw [resolved]
  rcases attempted : headAttempt settings visit.around.vcs (cachesAfter settings earlier).refs
    visit.request none with ⟨result, refs⟩
  cases result with
  | error skip =>
      apply attributed_without_git
      · simp [answeredAt, mode, attempted]
      · exact without_git_kind _ _ _ _ _
  | ok baseline =>
      have answered : answeredAt settings visit.around (cachesAfter settings earlier).refs
          visit.request = some .head := by simp [answeredAt, mode, attempted]
      have passed : ∀ vcs, PassedOver vcs visit.request none := fun _ => mode
      obtain ⟨vcs, head, asked, current, source⟩ :=
        head_attempt_answered (congrArg Prod.fst attempted)
      rcases source with held | ⟨found, offered, rfl⟩
      · obtain ⟨maker, -, ancestral | made⟩ := held_made traced held
        · obtain ⟨other, -, -, -, -, keys, -⟩ := ancestral
          exact absurd keys (merge_base_key_ne_local maker mode)
        · obtain ⟨client, found, skipped, -, -, keys, reason, offered, same⟩ := made
          dsimp only at same
          subst same
          have sameMode := (mode_eq_of_head_key keys).trans mode
          have none : skipped = none := by
            cases skipped with
            | none => rfl
            | some skip => simp [PassedOver, sameMode] at reason
          subst none
          exact attributed_head answered asked current (passed vcs)
            (client.commit_of_head_offer offered)
      · exact attributed_head answered asked current (passed vcs)
          (vcs.commit_of_head_offer offered)

/-- What stands under the key of the own target is a common ancestor, unless entries cross. -/
theorem attributed_at_merge_base (mode : visit.request.mode = .pr)
    (clear : ¬Crossed settings visit.around (cachesAfter settings earlier).refs visit.request)
    (answered : answeredAt settings visit.around (cachesAfter settings earlier).refs
      visit.request = some .mergeBase)
    (attempted : (mergeBaseAttempt settings visit.around.vcs (cachesAfter settings earlier).refs
      visit.request).1 = .ok baseline) :
    Attributed settings earlier visit baseline.resolution baseline.text := by
  obtain ⟨vcs, head, asked, current, source⟩ := merge_base_attempt_answered attempted
  rcases source with held | ⟨found, offered, rfl⟩
  · obtain ⟨maker, member, made | made⟩ := held_made (caches_after_traced settings earlier) held
    · exact attributed_ancestor answered (List.mem_append_left _ member) made
    · -- What was cached for the head is only found under a target of that name.
      obtain ⟨client, found, skipped, -, -, keys, -, -, same⟩ := made
      dsimp only at same
      have target : visit.request.target = "HEAD" := (congrArg RefKey.target keys).symm
      have shared : headKey vcs visit.request = mergeBaseKey vcs visit.request := by
        simp [headKey, mergeBaseKey, mode, target]
      exact absurd ⟨mode, vcs, head, baseline, asked, current, by rw [shared]; exact held,
        .inl ⟨target, by rw [same]; rfl⟩⟩ clear
  · have made : MadeAtMergeBase settings visit.around.vcs visit.request
        (mergeBaseKey vcs visit.request)
        ⟨head, mergeBaseBaseline visit.request.target found⟩ :=
      ⟨vcs, found, asked, current, mode, rfl, offered, rfl⟩
    exact attributed_ancestor answered (by simp) made

/-- The head that a passed over target falls back to carries the reason of that target, unless
entries cross. -/
theorem attributed_after_merge_base (mode : visit.request.mode = .pr)
    (clear : ¬Crossed settings visit.around (cachesAfter settings earlier).refs visit.request)
    (answered : answeredAt settings visit.around (cachesAfter settings earlier).refs
      visit.request = some .head) {skip : Skip} {refs : RefCache}
    (attempted : mergeBaseAttempt settings visit.around.vcs (cachesAfter settings earlier).refs
      visit.request = (.error skip, refs))
    (fallen : (headAttempt settings visit.around.vcs refs visit.request (some skip)).1 =
      .ok baseline) :
    Attributed settings earlier visit baseline.resolution baseline.text := by
  have first := congrArg Prod.fst attempted
  obtain ⟨vcs, head, asked, current, source⟩ := head_attempt_answered fallen
  obtain ⟨missed, refused⟩ := merge_base_attempt_skipped asked current first
  have passed : PassedOver vcs visit.request (some skip) := ⟨mode, refused⟩
  rcases source with held | ⟨found, offered, rfl⟩
  · have kept := held_after_merge_base_skipped asked current mode first
    rw [attempted] at kept
    rw [kept] at held
    split at held
    · cases held
    · next different =>
        have own : baseline.resolution.kind = .head ∧
            baseline.resolution.reason = some (.skipped skip) :=
          Decidable.byContradiction fun foreign =>
            clear ⟨mode, vcs, head, baseline, asked, current, held,
              .inr ⟨different, missed, skip, refused, foreign⟩⟩
        exact attributed_held_head answered asked current passed
          (caches_after_traced settings earlier) held own.1 own.2
  · exact attributed_head answered asked current passed
      (vcs.commit_of_head_offer offered)

theorem attributed_pr (mode : visit.request.mode = .pr)
    (clear : ¬Crossed settings visit.around (cachesAfter settings earlier).refs visit.request) :
    let outcome := resolve settings visit.around (cachesAfter settings earlier) visit.request
    Attributed settings earlier visit outcome.baseline.resolution outcome.baseline.text := by
  intro outcome
  have resolved : outcome.result.1 = _ := congrArg Prod.fst
    (resolve_pr settings visit.around (cachesAfter settings earlier) visit.request mode)
  change outcome.baseline = _ at resolved
  rw [resolved]
  rcases attempted : mergeBaseAttempt settings visit.around.vcs (cachesAfter settings earlier).refs
    visit.request with ⟨result, refs⟩
  cases result with
  | ok baseline =>
      exact attributed_at_merge_base mode clear (by simp [answeredAt, mode, attempted])
        (congrArg Prod.fst attempted)
  | error skip =>
      rcases fallen : headAttempt settings visit.around.vcs refs visit.request (some skip) with
        ⟨result, after⟩
      cases result with
      | error reason =>
          simp only [fallen]
          apply attributed_without_git
          · simp [answeredAt, mode, attempted, fallen]
          · exact without_git_kind _ _ _ _ _
      | ok baseline =>
          simp only [fallen, afterHead]
          exact attributed_after_merge_base mode clear
            (by simp [answeredAt, mode, attempted, fallen]) attempted (congrArg Prod.fst fallen)

/-- A resolution that meets an entry it did not ask for answers with it. -/
theorem not_attributed_of_crossed
    (crossed : Crossed settings visit.around (cachesAfter settings earlier).refs visit.request) :
    let outcome := resolve settings visit.around (cachesAfter settings earlier) visit.request
    ¬Attributed settings earlier visit outcome.baseline.resolution outcome.baseline.text := by
  intro outcome attributed
  obtain ⟨mode, vcs, head, shared, asked, current, held, meets⟩ := crossed
  have resolved : outcome.result.1 = _ := congrArg Prod.fst
    (resolve_pr settings visit.around (cachesAfter settings earlier) visit.request mode)
  change outcome.baseline = _ at resolved
  have known := (vcs.head_id_eq_ok_iff head).mpr current
  rcases meets with ⟨target, kind⟩ | ⟨different, missed, skip, refused, foreign⟩
  · have keys : mergeBaseKey vcs visit.request = headKey vcs visit.request := by
      simp [headKey, mergeBaseKey, mode, target]
    have attempted : mergeBaseAttempt settings visit.around.vcs (cachesAfter settings earlier).refs
        visit.request = (.ok shared, (cachesAfter settings earlier).refs) := by
      simp only [mergeBaseAttempt, asked, throughCache, known, keys, held]
    rw [attempted] at resolved
    have own := attributed.own .mergeBase (by simp [answeredAt, mode, attempted])
    rw [resolved, kind] at own
    cases own
  · rcases attempted : mergeBaseAttempt settings visit.around.vcs
      (cachesAfter settings earlier).refs visit.request with ⟨result, refs⟩
    have failed : result = .error skip := by
      have outcome := congrArg Prod.fst attempted
      simp only [mergeBaseAttempt, asked, throughCache, known, missed, refused, Except.map]
        at outcome
      exact outcome.symm
    subst failed
    have kept := held_after_merge_base_skipped asked current mode (congrArg Prod.fst attempted)
    rw [attempted, if_neg different, held] at kept
    have fallen : headAttempt settings visit.around.vcs refs visit.request (some skip) =
        (.ok shared, refs) := by
      simp only [headAttempt, asked, throughCache, known]
      rw [kept]
    rw [attempted] at resolved
    simp only [fallen, afterHead] at resolved
    have own := attributed.own .head (by simp [answeredAt, mode, attempted, fallen])
    obtain ⟨-, client, id, present, -, -, reasons⟩ := attributed.head own
    obtain ⟨why, refusedAgain, named⟩ := reasons mode
    have same : client = vcs := by
      have there := ((git_source_eq_ok_iff settings visit.around.vcs vcs).mp asked).2
      rw [present] at there
      exact Option.some.inj there
    subst same
    rw [refused] at refusedAgain
    cases refusedAgain
    rw [resolved] at own named
    exact foreign ⟨own, named⟩

/-- No target of the run is called like the head, and as long as the head stays where it is, the
targets of the file that are passed over are passed over for one reason. -/
structure Separate (earlier : List Visit) (visit : Visit) : Prop where
  targets : ∀ maker ∈ earlier ++ [visit], maker.request.Distinct
  reasons : ∀ maker ∈ earlier, ∀ vcs other head skip why,
    visit.around.vcs = some vcs → vcs.currentRef = .ok (some head) →
    vcs.mergeBaseOffer visit.request.path visit.request.target = .error skip →
    maker.around.vcs = some other → other.currentRef = .ok (some head) →
    maker.request.mode = .pr → maker.request.path.toString = visit.request.path.toString →
    other.mergeBaseOffer maker.request.path maker.request.target = .error why → why = skip

theorem not_crossed_of_separate (separate : Separate earlier visit) :
    ¬Crossed settings visit.around (cachesAfter settings earlier).refs visit.request := by
  rintro ⟨mode, vcs, head, shared, asked, current, held, meets⟩
  have distinct : visit.request.target ≠ "HEAD" := separate.targets visit (by simp) mode
  rcases meets with ⟨target, -⟩ | ⟨-, -, skip, refused, foreign⟩
  · exact distinct target
  · have present := ((git_source_eq_ok_iff settings visit.around.vcs vcs).mp asked).2
    obtain ⟨maker, member, made | made⟩ := held_made (caches_after_traced settings earlier) held
    · obtain ⟨other, found, -, -, makerMode, keys, -⟩ := made
      have target : maker.request.target = "HEAD" := congrArg RefKey.target keys
      exact separate.targets maker (List.mem_append_left _ member) makerMode target
    · obtain ⟨other, found, skipped, makerAsked, makerCurrent, keys, passed, -, same⟩ := made
      have makerMode := (mode_eq_of_head_key keys).trans mode
      cases skipped with
      | none =>
          simp only [PassedOver, makerMode] at passed
          cases passed
      | some why =>
          have path : maker.request.path.toString = visit.request.path.toString :=
            congrArg RefKey.path keys
          have one : why = skip := separate.reasons maker member vcs other head skip why present
            current refused ((git_source_eq_ok_iff settings maker.around.vcs other).mp makerAsked).2
            makerCurrent makerMode path passed.2
          dsimp only at same
          subst one same
          exact foreign ⟨rfl, rfl⟩

end Attribution

/-- In every run of resolutions, with whatever targets and answers of version control, a resolution
attributes its baseline correctly exactly when it does not meet an entry of another's making. It
never does where targets keep apart. -/
theorem attributed_iff_not_crossed (settings : Settings.Baseline) (earlier : List Visit)
    (visit : Visit) :
    let caches := cachesAfter settings earlier
    let outcome := resolve settings visit.around caches visit.request
    (Attributed settings earlier visit outcome.baseline.resolution outcome.baseline.text ↔
        ¬Crossed settings visit.around caches.refs visit.request) ∧
      (Separate earlier visit →
        Attributed settings earlier visit outcome.baseline.resolution outcome.baseline.text) := by
  intro caches outcome
  have sufficient (clear : ¬Crossed settings visit.around caches.refs visit.request) :
      Attributed settings earlier visit outcome.baseline.resolution outcome.baseline.text := by
    cases mode : visit.request.mode with
    | «local» => exact attributed_local mode
    | pr => exact attributed_pr mode clear
  constructor
  · constructor
    · intro attributed crossed
      exact not_attributed_of_crossed crossed attributed
    · exact sufficient
  · intro separate
    exact sufficient (not_crossed_of_separate separate)

/-- A repository at one head where every commit has every file. -/
def everyFile (mergeBase : String → Except String (Option String)) : Surroundings where
  files := unreadableFiles
  vcs := some
    { root := none, currentRef := .ok (some "c2"), isTracked := fun _ => .ok true
      mergeBase := mergeBase, readAt := fun _ ref => .ok (some ref.toList) }

/-- The same file, asked for in `pr` mode. -/
def visitTo (target : String) (mergeBase : String → Except String (Option String)) : Visit :=
  ⟨everyFile mergeBase, ⟨⟨.slash, ["a.ts"]⟩, [], .pr, target⟩⟩

/-- After a resolution against `"HEAD"`, one against another target gives out its common ancestor;
and after one that failed, the next one names that failure in place of its own reason. -/
theorem crossed_runs_not_attributed :
    (let known := fun ref => .ok (if ref = "HEAD" then some "c2" else none)
     let outcome := resolve {} (everyFile known) (cachesAfter {} [visitTo "HEAD" known])
       (visitTo "develop" known).request
     ¬Attributed {} [visitTo "HEAD" known] (visitTo "develop" known) outcome.baseline.resolution
       outcome.baseline.text) ∧
    (let failing := fun _ => .error "index locked"
     let known := fun _ => .ok none
     let outcome := resolve {} (everyFile known) (cachesAfter {} [visitTo "main" failing])
       (visitTo "main" known).request
     ¬Attributed {} [visitTo "main" failing] (visitTo "main" known) outcome.baseline.resolution
       outcome.baseline.text) := by
  constructor
  · intro known outcome attributed
    have named : some "HEAD" = some "develop" := (attributed.ancestor rfl rfl).1
    exact absurd named (by decide)
  · intro failing known outcome attributed
    obtain ⟨-, vcs, id, present, -, -, reasons⟩ := attributed.head rfl
    obtain ⟨skip, refused, named⟩ := reasons rfl
    cases present
    cases refused
    cases named

end EditImpact.Baseline
