import EditImpact.Baseline.Cache
import EditImpact.Failure
import EditImpact.Files.System
import EditImpact.Settings.Basic

/-!
Finding the text before an edit. Sources are tried in order until one has a text: the common
ancestor with the target branch, the last commit, the last text seen, the text on disk, and at last
the current text itself.
-/

namespace EditImpact.Baseline

/-- Version control at one moment; every question may fail with a message. -/
structure Vcs where
  root : Option Path
  currentRef : Except String (Option String)
  isTracked : Path → Except String Bool
  mergeBase : String → Except String (Option String)
  readAt : Path → String → Except String (Option (List Char))

/-- A question that was put to version control. -/
inductive Question where
  | currentRef
  | isTracked (path : Path)
  | mergeBase (ref : String)
  | readAt (path : Path) (ref : String)
  deriving DecidableEq, Repr

structure Request where
  path : Path
  current : List Char
  mode : Settings.Mode
  target : String

/-- Files and version control as they are during one analysis. -/
structure Surroundings where
  files : Files.FileSystem
  vcs : Option Vcs

/-- What asking version control for a baseline came to. -/
structure GitAttempt where
  outcome : Except Skip Resolved
  refs : RefCache
  questions : List Question := []

namespace GitAttempt

def skip (refs : RefCache) (reason : Skip) : GitAttempt := ⟨.error reason, refs, []⟩

/-- Puts a question and goes on with its answer; a failure ends the attempt. -/
def ask {Answer : Type} (refs : RefCache) (question : Question) (answer : Except String Answer)
    (next : Answer → GitAttempt) : GitAttempt :=
  match answer with
  | .error message => ⟨.error (.gitProblem message), refs, [question]⟩
  | .ok answer =>
    let attempt := next answer
    { attempt with questions := question :: attempt.questions }

end GitAttempt

/-- Version control, if it may and can be asked. -/
def gitSource (settings : Settings.Baseline) (vcs : Option Vcs) : Except Skip Vcs :=
  if settings.useGit then
    match vcs with
    | some vcs => .ok vcs
    | none => .error .noRepository
  else .error .gitDisabled

/-- The head and a cached baseline that still holds for it, or what to do without one. -/
def withHead (vcs : Vcs) (refs : RefCache) (key : RefKey)
    (uncached : RefCache → String → GitAttempt) : GitAttempt :=
  .ask refs .currentRef vcs.currentRef fun
    | none => .skip refs .refUnavailable
    | some head =>
      match refs.lookup key (some head) with
      | (some cached, refs) => ⟨.ok cached, refs, []⟩
      | (none, refs) => uncached refs head

def mergeBaseKey (vcs : Vcs) (request : Request) : RefKey :=
  ⟨vcs.root, request.path.toString, Settings.Mode.name .pr, request.target⟩

/-- The text at the common ancestor of the head and the target. -/
def fromMergeBase (vcs : Vcs) (refs : RefCache) (request : Request) : GitAttempt :=
  withHead vcs refs (mergeBaseKey vcs request) fun refs head =>
    .ask refs (.mergeBase request.target) (vcs.mergeBase request.target) fun
      | none => .skip refs .mergeBaseUnavailable
      | some base =>
        .ask refs (.readAt request.path base) (vcs.readAt request.path base) fun
          | none => .skip refs .mergeBaseUnavailable
          | some text =>
            let baseline : Resolved :=
              { text := Text.given text
                resolution :=
                  { kind := .mergeBase, available := true, refName := some request.target
                    commit := some base } }
            ⟨.ok baseline, refs.store (mergeBaseKey vcs request) head baseline, []⟩

def headKey (vcs : Vcs) (request : Request) : RefKey :=
  ⟨vcs.root, request.path.toString, request.mode.name, "HEAD"⟩

/-- The text at the head. The reason says why the common ancestor was passed over. -/
def fromHead (vcs : Vcs) (refs : RefCache) (request : Request) (skipped : Option Skip) :
    GitAttempt :=
  withHead vcs refs (headKey vcs request) fun refs head =>
    .ask refs (.isTracked request.path) (vcs.isTracked request.path) fun
      | false => .skip refs .notTracked
      | true =>
        .ask refs (.readAt request.path head) (vcs.readAt request.path head) fun
          | none => .skip refs .notAtRef
          | some text =>
            let baseline : Resolved :=
              { text := Text.given text
                resolution :=
                  { kind := .head, available := true, refName := some "HEAD", commit := some head
                    reason := skipped.map .skipped } }
            ⟨.ok baseline, refs.store (headKey vcs request) head baseline, []⟩

/-- Tries a way to ask version control. -/
def attemptGit (settings : Settings.Baseline) (vcs : Option Vcs) (refs : RefCache)
    (attempt : Vcs → GitAttempt) : GitAttempt :=
  match gitSource settings vcs with
  | .error reason => .skip refs reason
  | .ok vcs => attempt vcs

/-- What a resolution came to. -/
structure Outcome where
  baseline : Resolved
  caches : Caches
  questions : List Question

/-- Remembers a text if snapshots are kept. -/
def Caches.remember (caches : Caches) (settings : Settings.Baseline) (path : String)
    (text : Text.Given) : Caches :=
  if settings.keepSnapshots then { caches with snapshots := caches.snapshots.put path text }
  else caches

def fromDisk (request : Request) (skipped : Skip) (text : List Char) : Resolved :=
  { text := Text.given text
    resolution := { kind := .snapshot, available := true, reason := some (.fallback skipped) }
    isEmpty := text == request.current }

/-- What a failed read is said to have failed for. -/
def readProblem : Option String → String
  | some message => if message.isEmpty then "unreadable" else message
  | none => "unreadable"

/-- The text on disk, or the current text as its own baseline. -/
def withoutSnapshot (settings : Settings.Baseline) (files : Files.FileSystem) (caches : Caches)
    (request : Request) (skipped : Skip) : Resolved × Caches :=
  match files.read request.path with
  | .ok text =>
    (fromDisk request skipped text, caches.remember settings request.path.toString (Text.given text))
  | .error message =>
    ({ text := Text.given request.current
       resolution :=
         { kind := .none, available := false
           reason := some (.skipped (.diskProblem (readProblem message))) }
       isEmpty := true },
      caches.remember settings request.path.toString (Text.given request.current))

/-- A baseline without version control, which was passed over. -/
def withoutGit (settings : Settings.Baseline) (files : Files.FileSystem) (caches : Caches)
    (request : Request) (skipped : Skip) : Resolved × Caches :=
  if settings.keepSnapshots then
    match caches.snapshots.get? request.path.toString with
    | some text =>
      ({ text := text
         resolution := { kind := .snapshot, available := true, reason := some (.fallback skipped) } },
        caches)
    | none => withoutSnapshot settings files caches request skipped
  else withoutSnapshot settings files caches request skipped

/-- The head, or what is left when it is passed over too. -/
def fromHeadOn (settings : Settings.Baseline) (around : Surroundings) (caches : Caches)
    (request : Request) (skipped : Option Skip) : Outcome :=
  let attempt :=
    attemptGit settings around.vcs caches.refs fun vcs => fromHead vcs caches.refs request skipped
  let caches := { caches with refs := attempt.refs }
  match attempt.outcome with
  | .ok baseline => ⟨baseline, caches, attempt.questions⟩
  | .error reason =>
    let (baseline, caches) := withoutGit settings around.files caches request reason
    ⟨baseline, caches, attempt.questions⟩

/-- The first source that has a text. -/
def resolve (settings : Settings.Baseline) (around : Surroundings) (caches : Caches)
    (request : Request) : Outcome :=
  match request.mode with
  | .local => fromHeadOn settings around caches request none
  | .pr =>
    let attempt :=
      attemptGit settings around.vcs caches.refs fun vcs => fromMergeBase vcs caches.refs request
    let caches := { caches with refs := attempt.refs }
    match attempt.outcome with
    | .ok baseline => ⟨baseline, caches, attempt.questions⟩
    | .error reason =>
      let outcome := fromHeadOn settings around caches request (some reason)
      { outcome with questions := attempt.questions ++ outcome.questions }

/-- The mode and target of a request: what was asked for, else what is set. -/
def requestOf (settings : Settings.Baseline) (path : Path) (current : List Char)
    (mode target : Option String) : Except Failure Request :=
  let target := match target with
    | some ref => if ref.isEmpty then settings.target else ref
    | none => settings.target
  match mode with
  | none => .ok ⟨path, current, settings.mode, target⟩
  | some name =>
    if name.isEmpty then .ok ⟨path, current, settings.mode, target⟩
    else
      match Settings.Mode.ofName? name with
      | some mode => .ok ⟨path, current, mode, target⟩
      | none => .error (.modeUnknown name)

/-- Moves the snapshot on after a comparison. A baseline from version control stays in force. -/
def record (settings : Settings.Baseline) (caches : Caches) (path : Path) (text : List Char)
    (resolution : Resolution) : Caches :=
  if resolution.kind == .snapshot then caches.remember settings path.toString (Text.given text)
  else caches

/-- Whether a text has nothing to be compared with: no baseline, or itself. -/
def Resolved.isIdle (baseline : Resolved) (current : List Char) : Bool :=
  baseline.isEmpty || baseline.text == Text.given current

/-- The caches after a text was analysed against the baseline of an outcome. -/
def recorded (settings : Settings.Baseline) (path : Path) (current : List Char)
    (outcome : Outcome) : Caches :=
  if outcome.baseline.isIdle current then outcome.caches
  else record settings outcome.caches path current outcome.baseline.resolution

end EditImpact.Baseline
