import EditImpact.Proofs.Baseline.Attempts

/-!
# The cache of baselines cannot be seen

As long as version control answers by its head alone, a resolution through the cache gives what it
would give with the cache emptied just before. The head may move anywhere between two resolutions,
also back to where it was. An entry is therefore tied to the head it was stored with and not to the
current one: `Faithful` says that at that head every request for its key would compute it again.
The one subtle entry is that of the head in `pr` mode, which requests with different targets share.
Its reason is the same for all of them, because a repository that gives the text at the head has
only one way left to pass the common ancestor over.
-/

namespace EditImpact.Baseline

set_option autoImplicit false

/-- What version control answers while the head stays where it is: each question fails in one way,
or its answer is looked up. Files are looked up by the text of their path. -/
structure HeadFacts where
  isTracked : Except String (String → Bool)
  mergeBase : Except String (String → Option String)
  readAt : Except String (String → String → Option (List Char))

/-- Why a common ancestor is passed over where files can be read. -/
def HeadFacts.ancestorSkip (facts : HeadFacts) : Skip :=
  match facts.mergeBase with
  | .error message => .gitProblem message
  | .ok _ => .mergeBaseUnavailable

/-- A repository at one place, with the facts for each head that it may have. -/
structure World where
  root : Option Path
  facts : String → HeadFacts

/-- Version control answers as the world has it for the current head. -/
def World.Describes (world : World) (vcs : Vcs) : Prop :=
  vcs.root = world.root ∧ ∀ head, vcs.currentRef = .ok (some head) →
    (∀ path, vcs.isTracked path = (world.facts head).isTracked.map (· path.toString)) ∧
    (∀ target, vcs.mergeBase target = (world.facts head).mergeBase.map (· target)) ∧
    ∀ path ref, vcs.readAt path ref = (world.facts head).readAt.map (· path.toString ref)

section Worlds

variable {world : World} {vcs other : Vcs} {head : String}

theorem merge_base_offer_agrees (described : world.Describes vcs) (alike : world.Describes other)
    (current : vcs.currentRef = .ok (some head)) (same : other.currentRef = .ok (some head))
    {path copy : Path} (text : path.toString = copy.toString) (target : String) :
    vcs.mergeBaseOffer path target = other.mergeBaseOffer copy target := by
  obtain ⟨-, ancestors, texts⟩ := described.2 head current
  obtain ⟨-, otherAncestors, otherTexts⟩ := alike.2 head same
  simp only [Vcs.mergeBaseOffer, ancestors, otherAncestors, texts, otherTexts, text]

theorem head_offer_agrees (described : world.Describes vcs) (alike : world.Describes other)
    (current : vcs.currentRef = .ok (some head)) (same : other.currentRef = .ok (some head))
    {path copy : Path} (text : path.toString = copy.toString) :
    vcs.headOffer path head = other.headOffer copy head := by
  obtain ⟨tracked, -, texts⟩ := described.2 head current
  obtain ⟨otherTracked, -, otherTexts⟩ := alike.2 head same
  simp only [Vcs.headOffer, tracked, otherTracked, texts, otherTexts, text]

/-- Where the head has the text, there is one reason left to pass a common ancestor over, whatever
the target. -/
theorem merge_base_skip_eq (described : world.Describes vcs)
    (current : vcs.currentRef = .ok (some head)) {path : Path} {found : Offer}
    (readable : vcs.headOffer path head = .ok found) {target : String} {skip : Skip}
    (skipped : vcs.mergeBaseOffer path target = .error skip) :
    skip = (world.facts head).ancestorSkip := by
  obtain ⟨-, ancestors, texts⟩ := described.2 head current
  obtain ⟨-, text, read, -⟩ := (vcs.head_offer_eq_ok_iff path head found).mp readable
  rw [texts] at read
  simp only [Vcs.mergeBaseOffer, ancestors, texts] at skipped
  unfold HeadFacts.ancestorSkip
  -- The text at the head was read, so reading is a lookup and cannot be what failed.
  cases reads : (world.facts head).readAt with
  | error message =>
      rw [reads] at read
      cases read
  | ok look =>
      rw [reads] at skipped
      cases asked : (world.facts head).mergeBase with
      | error message => simpa [asked, Except.map, required, eq_comm] using skipped
      | ok bases =>
          cases base : bases target with
          | none => simpa [asked, Except.map, required, base, eq_comm] using skipped
          | some commit =>
              cases text : look path.toString commit with
              | none => simpa [asked, Except.map, required, base, text, eq_comm] using skipped
              | some content => simp [asked, Except.map, required, base, text] at skipped

/-- Requests of one file and mode that are passed on to a head with the text give it one reason. -/
theorem passed_over_unique (described : world.Describes vcs) (alike : world.Describes other)
    (current : vcs.currentRef = .ok (some head)) (same : other.currentRef = .ok (some head))
    {request again : Request} (path : request.path.toString = again.path.toString)
    (mode : request.mode = again.mode) {found : Offer}
    (readable : vcs.headOffer request.path head = .ok found) {skipped reason : Option Skip}
    (first : PassedOver vcs request skipped) (second : PassedOver other again reason) :
    skipped = reason := by
  cases skipped with
  | none =>
      cases reason with
      | none => rfl
      | some skip =>
          simp only [PassedOver, mode] at first second
          rw [first] at second
          cases second.1
  | some skip =>
      cases reason with
      | none =>
          simp only [PassedOver, mode] at first second
          rw [second] at first
          cases first.1
      | some why =>
          have readableAgain : other.headOffer again.path head = .ok found := by
            rw [← head_offer_agrees described alike current same path]
            exact readable
          rw [merge_base_skip_eq described current readable first.2,
            merge_base_skip_eq alike same readableAgain second.2]

end Worlds

/-- At the head of the entry, every request for its key would compute its baseline again. -/
def Faithful (world : World) (key : RefKey) (entry : RefEntry) : Prop :=
  ∀ vcs request, world.Describes vcs → vcs.currentRef = .ok (some entry.head) → request.Distinct →
    (request.mode = .pr → mergeBaseKey vcs request = key →
      (vcs.mergeBaseOffer request.path request.target).map (mergeBaseBaseline request.target) =
        .ok entry.baseline) ∧
    ∀ skipped, headKey vcs request = key → PassedOver vcs request skipped →
      (vcs.headOffer request.path entry.head).map (headBaseline skipped) = .ok entry.baseline

/-- Every entry of a cache is faithful. -/
def AllFaithful (world : World) (refs : RefCache) : Prop :=
  ∀ key entry, Store.get? refs key = some entry → Faithful world key entry

theorem all_faithful_empty (world : World) : AllFaithful world {} := by
  intro key entry stored
  cases stored

section Entries

variable {world : World} {settings : Settings.Baseline} {vcs : Option Vcs} {request : Request}
  {key : RefKey} {entry : RefEntry}

theorem made_at_merge_base_faithful
    (described : ∀ client, vcs = some client → world.Describes client) (distinct : request.Distinct)
    (made : MadeAtMergeBase settings vcs request key entry) : Faithful world key entry := by
  obtain ⟨client, found, asked, current, mode, rfl, offered, baseline⟩ := made
  have known := described client ((git_source_eq_ok_iff settings vcs client).mp asked).2
  intro other again alike same _
  constructor
  · intro _ keys
    simp only [mergeBaseKey, RefKey.mk.injEq] at keys
    obtain ⟨-, path, -, target⟩ := keys
    rw [target, merge_base_offer_agrees alike known same current path, offered, baseline]
    rfl
  · intro skipped keys _
    simp only [headKey, mergeBaseKey, RefKey.mk.injEq] at keys
    exact absurd keys.2.2.2.symm (distinct mode)

theorem made_at_head_faithful
    (described : ∀ client, vcs = some client → world.Describes client)
    (made : MadeAtHead settings vcs request key entry) : Faithful world key entry := by
  obtain ⟨client, found, skipped, asked, current, rfl, passed, offered, baseline⟩ := made
  have known := described client ((git_source_eq_ok_iff settings vcs client).mp asked).2
  intro other again alike same distinct
  constructor
  · intro mode keys
    simp only [headKey, mergeBaseKey, RefKey.mk.injEq] at keys
    exact absurd keys.2.2.2 (distinct mode)
  · intro reason keys passedAgain
    have mode := mode_eq_of_head_key keys
    have path : again.path.toString = request.path.toString := congrArg RefKey.path keys
    have reasons := passed_over_unique known alike current same path.symm mode.symm offered passed
      passedAgain
    rw [head_offer_agrees alike known same current path, ← reasons, offered, baseline]
    rfl

end Entries

section Attempts

variable {world : World} {settings : Settings.Baseline} {vcs : Option Vcs} {refs : RefCache}
  {request : Request}

theorem merge_base_attempt_transparent
    (described : ∀ client, vcs = some client → world.Describes client)
    (faithful : AllFaithful world refs) (distinct : request.Distinct) (mode : request.mode = .pr) :
    (mergeBaseAttempt settings vcs refs request).1 =
      (mergeBaseAttempt settings vcs {} request).1 := by
  rw [merge_base_attempt_eq, merge_base_attempt_eq]
  apply through_git_transparent
  intro client head baseline asked current held
  have known := described client ((git_source_eq_ok_iff settings vcs client).mp asked).2
  have stored := (refs.held_eq_some_iff _ head baseline).mp held
  exact (faithful _ _ stored client request known current distinct).1 mode rfl

theorem merge_base_attempt_faithful
    (described : ∀ client, vcs = some client → world.Describes client)
    (faithful : AllFaithful world refs) (distinct : request.Distinct) (mode : request.mode = .pr) :
    AllFaithful world (mergeBaseAttempt settings vcs refs request).2 := by
  intro key entry stored
  rcases get_merge_base_attempt mode stored with before | made
  · exact faithful key entry before
  · exact made_at_merge_base_faithful described distinct made

theorem head_attempt_transparent {skipped : Option Skip}
    (described : ∀ client, vcs = some client → world.Describes client)
    (faithful : AllFaithful world refs) (distinct : request.Distinct)
    (handed : HandsOn settings vcs request skipped) :
    (headAttempt settings vcs refs request skipped).1 =
      (headAttempt settings vcs {} request skipped).1 := by
  rw [head_attempt_eq, head_attempt_eq]
  apply through_git_transparent
  intro client head baseline asked current held
  have known := described client ((git_source_eq_ok_iff settings vcs client).mp asked).2
  have stored := (refs.held_eq_some_iff _ head baseline).mp held
  exact (faithful _ _ stored client request known current distinct).2 skipped rfl
    (handed client head asked current)

end Attempts

section Resolutions

variable {world : World} {settings : Settings.Baseline} {around : Surroundings} {caches : Caches}
  {request : Request}

/-- One resolution keeps all entries faithful. -/
theorem resolve_faithful
    (described : ∀ client, around.vcs = some client → world.Describes client)
    (faithful : AllFaithful world caches.refs) (distinct : request.Distinct) :
    AllFaithful world (resolve settings around caches request).caches.refs := by
  intro key entry stored
  rcases get_resolve stored with before | made | made
  · exact faithful key entry before
  · exact made_at_merge_base_faithful described distinct made
  · exact made_at_head_faithful described made

/-- One resolution through a faithful cache is what it would be through an empty one. -/
theorem resolve_transparent
    (described : ∀ client, around.vcs = some client → world.Describes client)
    (faithful : AllFaithful world caches.refs) (distinct : request.Distinct) :
    (resolve settings around caches request).result.1 =
        (resolve settings around ⟨caches.snapshots, {}⟩ request).result.1 ∧
      (resolve settings around caches request).result.2.snapshots =
        (resolve settings around ⟨caches.snapshots, {}⟩ request).result.2.snapshots := by
  cases mode : request.mode with
  | «local» =>
      rw [resolve_local settings around caches request mode,
        resolve_local settings around ⟨caches.snapshots, {}⟩ request mode]
      apply after_head_congr
      exact head_attempt_transparent described faithful distinct (fun _ _ _ _ => mode)
  | pr =>
      rw [resolve_pr settings around caches request mode,
        resolve_pr settings around ⟨caches.snapshots, {}⟩ request mode]
      have same : (mergeBaseAttempt settings around.vcs caches.refs request).1 =
          (mergeBaseAttempt settings around.vcs {} request).1 :=
        merge_base_attempt_transparent described faithful distinct mode
      have kept : AllFaithful world
          (mergeBaseAttempt settings around.vcs caches.refs request).2 :=
        merge_base_attempt_faithful described faithful distinct mode
      have keptFresh : AllFaithful world (mergeBaseAttempt settings around.vcs {} request).2 :=
        merge_base_attempt_faithful described (all_faithful_empty world) distinct mode
      rcases attempted : mergeBaseAttempt settings around.vcs caches.refs request with
        ⟨outcome, refs⟩
      rcases fresh : mergeBaseAttempt settings around.vcs {} request with ⟨freshOutcome, freshRefs⟩
      rw [attempted] at kept same
      rw [fresh] at keptFresh same
      dsimp only at same
      subst same
      cases outcome with
      | ok baseline => exact ⟨rfl, rfl⟩
      | error skip =>
          have handed : HandsOn settings around.vcs request (some skip) :=
            hands_on_of_merge_base_skipped mode (by rw [fresh])
          apply after_head_congr
          rw [head_attempt_transparent described kept distinct handed,
            head_attempt_transparent described keptFresh distinct handed]

end Resolutions

/-- The caches of a resolver, and version control as it is now, if there is any. -/
structure Session where
  vcs : Option Vcs
  caches : Caches := {}

/-- What can happen between two resolutions, or be one. -/
inductive Step where
  | resolve (files : Files.FileSystem) (request : Request)
  | record (path : Path) (text : List Char) (resolution : Resolution)
  | putSnapshot (path : String) (text : Text.Given)
  | discardPath (path : String)
  | clearRefs
  | moveHead (vcs : Vcs)

namespace Session

variable (settings : Settings.Baseline)

def step (session : Session) : Step → Session
  | .resolve files request =>
    { session with caches := (resolve settings ⟨files, session.vcs⟩ session.caches request).caches }
  | .record path text resolution =>
    { session with caches := record settings session.caches path text resolution }
  | .putSnapshot path text =>
    { session with caches :=
        { session.caches with snapshots := session.caches.snapshots.put path text } }
  | .discardPath path =>
    { session with caches :=
        { session.caches with refs := session.caches.refs.discardPath path } }
  | .clearRefs => { session with caches := { session.caches with refs := {} } }
  | .moveHead vcs => { session with vcs := session.vcs.map fun _ => vcs }

def run (session : Session) (steps : List Step) : Session := steps.foldl (step settings) session

end Session

/-- A resolution has a target of its own, and a moved head is one that the world knows. -/
def Step.Allowed (world : World) : Step → Prop
  | .resolve _ request => request.Distinct
  | .moveHead vcs => world.Describes vcs
  | _ => True

/-- Version control is in the world, and so is everything cached from it. -/
structure Session.InWorld (world : World) (session : Session) : Prop where
  described : ∀ client, session.vcs = some client → world.Describes client
  faithful : AllFaithful world session.caches.refs

theorem step_in_world (settings : Settings.Baseline) {world : World} {session : Session}
    (inWorld : session.InWorld world) {step : Step} (allowed : step.Allowed world) :
    (session.step settings step).InWorld world := by
  obtain ⟨described, faithful⟩ := inWorld
  cases step with
  | resolve files request => exact ⟨described, resolve_faithful described faithful allowed⟩
  | record path text resolution =>
      refine ⟨described, ?_⟩
      simp only [Session.step, record_refs]
      exact faithful
  | putSnapshot path text => exact ⟨described, faithful⟩
  | discardPath path =>
      refine ⟨described, ?_⟩
      intro key entry stored
      simp only [Session.step, RefCache.get_discard_path] at stored
      split at stored
      · cases stored
      · exact faithful key entry stored
  | clearRefs => exact ⟨described, all_faithful_empty world⟩
  | moveHead vcs =>
      refine ⟨?_, faithful⟩
      intro client present
      simp only [Session.step, Option.map_eq_some_iff] at present
      obtain ⟨-, -, rfl⟩ := present
      exact allowed

theorem run_in_world (settings : Settings.Baseline) {world : World} {session : Session}
    (inWorld : session.InWorld world) {steps : List Step}
    (allowed : ∀ step ∈ steps, step.Allowed world) :
    (session.run settings steps).InWorld world := by
  induction steps generalizing session with
  | nil => exact inWorld
  | cons step rest ih =>
      have here := step_in_world settings inWorld (allowed step (by simp))
      exact ih here (fun later member => allowed later (by simp [member]))

/-- In a world whose answers depend on the head alone, every resolution of a run is what it would be
with the cache of version control emptied just before it. -/
theorem ref_cache_is_transparent (settings : Settings.Baseline) (world : World)
    (start : Option Vcs) (known : ∀ vcs, start = some vcs → world.Describes vcs)
    (steps : List Step) (allowed : ∀ step ∈ steps, step.Allowed world)
    (files : Files.FileSystem) (request : Request) (distinct : request.Distinct) :
    let session := Session.run settings ⟨start, {}⟩ steps
    let cached := resolve settings ⟨files, session.vcs⟩ session.caches request
    let fresh := resolve settings ⟨files, session.vcs⟩ ⟨session.caches.snapshots, {}⟩ request
    cached.baseline = fresh.baseline ∧ cached.caches.snapshots = fresh.caches.snapshots := by
  intro session cached fresh
  have started : Session.InWorld world ⟨start, {}⟩ := ⟨known, all_faithful_empty world⟩
  have reached := run_in_world settings started allowed
  exact resolve_transparent reached.described reached.faithful distinct

/-- Version control of a world at one of its heads. -/
def World.vcsAt (world : World) (head : String) : Vcs where
  root := world.root
  currentRef := .ok (some head)
  isTracked path := (world.facts head).isTracked.map (· path.toString)
  mergeBase target := (world.facts head).mergeBase.map (· target)
  readAt path ref := (world.facts head).readAt.map (· path.toString ref)

theorem describes_vcs_at (world : World) (head : String) :
    world.Describes (world.vcsAt head) := by
  refine ⟨rfl, ?_⟩
  intro other current
  cases current
  exact ⟨fun _ => rfl, fun _ => rfl, fun _ _ => rfl⟩

/-- Every commit has every file, and at one head common ancestors cannot be asked for. -/
def twoHeads : World where
  root := none
  facts head :=
    { isTracked := .ok fun _ => true
      mergeBase := if head = "c3" then .error "index locked" else .ok fun _ => none
      readAt := .ok fun _ ref => some ref.toList }

/-- The head leaves and comes back, and another target finds the entry of the first one. -/
theorem returning_head_is_transparent :
    let asked (target : String) : Request := ⟨⟨.slash, ["a.ts"]⟩, [], .pr, target⟩
    let session := Session.run {} ⟨some (twoHeads.vcsAt "c2"), {}⟩
      [.resolve unreadableFiles (asked "main"), .moveHead (twoHeads.vcsAt "c3"),
        .moveHead (twoHeads.vcsAt "c2")]
    let cached := resolve {} ⟨unreadableFiles, session.vcs⟩ session.caches (asked "develop")
    let fresh := resolve {} ⟨unreadableFiles, session.vcs⟩ ⟨session.caches.snapshots, {}⟩
      (asked "develop")
    (asked "main").Distinct ∧ (asked "develop").Distinct ∧ session.caches.refs.size = 1 ∧
      cached.baseline = fresh.baseline ∧ cached.caches.snapshots = fresh.caches.snapshots := by
  intro asked session cached fresh
  have distinct (target : String) (other : target ≠ "HEAD") : (asked target).Distinct :=
    fun _ => other
  have first := distinct "main" (by decide)
  have last := distinct "develop" (by decide)
  have known (vcs : Vcs) (present : some (twoHeads.vcsAt "c2") = some vcs) :
      twoHeads.Describes vcs := by
    cases present
    exact describes_vcs_at twoHeads "c2"
  refine ⟨first, last, rfl, ?_⟩
  apply ref_cache_is_transparent {} twoHeads (some (twoHeads.vcsAt "c2")) known
  · intro step member
    simp only [List.mem_cons, List.not_mem_nil, or_false] at member
    rcases member with rfl | rfl | rfl
    · exact first
    · exact describes_vcs_at twoHeads "c3"
    · exact describes_vcs_at twoHeads "c2"
  · exact last

end EditImpact.Baseline
