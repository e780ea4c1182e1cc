import EditImpact.Baseline.Resolve
import EditImpact.Impact.Report
import EditImpact.Lines.Diff
import EditImpact.Scoring.Default

/-!
Analysing edits of single files in a project. An analysis compares the current text with its
baseline, reports what breaks and scores the edit; the engine remembers texts between analyses.
-/

namespace EditImpact

open Baseline

/-- What an engine compares texts with: their inventories, and the lines that differ. -/
structure Engine.Tools where
  collect : List Char → Option Language → Inventory
  patch : Lines.Patcher

structure Engine where
  tools : Engine.Tools
  root : Path
  settings : Settings := {}
  caches : Caches := {}

namespace Engine

/-- Where the current text comes from. -/
inductive Origin where
  | buffer
  | disk
  deriving DecidableEq, Repr

def Origin.name : Origin → String
  | .buffer => "buffer"
  | .disk => "disk"

/-- A call for an analysis. -/
structure Edit where
  path : Path
  buffer : Option Text.Given := none
  diagnostics : List Scoring.Diagnostic := []
  mode : Option String := none
  target : Option String := none

structure Analysis (Weight : Type) where
  report : Impact.Report
  confidence : Scoring.Confidence Weight
  baseline : Resolution
  status : ParseStatus
  delta : LineDelta
  origin : Option Origin

/-- What a call came to: its answer, the engine afterwards, the questions put to version control,
whether a walk ran out of time, and the clock. -/
structure Reply (Answer : Type) where
  answer : Answer
  engine : Engine
  questions : List Question
  stopped : Bool
  clock : Files.Clock

/-- The file that a call means, and how it is shown. -/
structure Place where
  file : Path
  shown : String

variable {Weight : Type} [Scoring.Weighing Weight]

/-- The path that a call means: seen from the root, with links followed. -/
def absolute (engine : Engine) (files : Files.FileSystem) (path : Path) : Except Failure Path :=
  files.real (engine.root.join path)

def placeOf (engine : Engine) (files : Files.FileSystem) (path : Path) : Except Failure Place := do
  let file ← engine.absolute files path
  let shown ← Impact.shownFrom files engine.root file
  return ⟨file, shown⟩

def scoreOf (context : Scoring.Context) : Scoring.Confidence Weight :=
  Scoring.scoreWith Scoring.defaultMetrics context

/-- The analysis of a file that is not looked at. -/
def rejected (shown : String) (reason : Reason) (origin : Option Origin) : Analysis Weight where
  report := .empty shown (some reason.text)
  confidence := scoreOf { path := shown, current := [] }
  baseline := { kind := .none, available := false, reason := some reason }
  status := .notAttempted
  delta := {}
  origin := origin

/-! ### Guards -/

/-- What the guards say of a file. -/
inductive Verdict where
  | turnedAway (reason : Reason) (origin : Option Origin)
  | admitted (text : List Char) (origin : Origin)

/-- The current text of a file: the buffer, else what is on disk. -/
def currentText (files : Files.FileSystem) (path : Path) (buffer : Option Text.Given) :
    Except Failure (Text.Given × Origin) :=
  match buffer with
  | some text => .ok (text, .buffer)
  | none =>
    match files.read path with
    | .ok text => .ok (Text.given text, .disk)
    | .error _ => .error (.fileUnreadable path.toString)

/-- The characters of a text that has to be written as bytes. -/
def encodable (text : Text.Given) : Except Failure (List Char) :=
  (Text.characters text).mapError .textUnencodable

/-- Whether a size is over the limit, which has to be a number of bytes to tell. -/
def isTooLarge (scan : Settings.Scan) (size : Nat) : Except Failure Bool := do
  return (← scan.limit) < size

/-- Whether a file is not even opened for its size on disk. That counts only where no buffer is
given and it is known. -/
def isTooLargeOnDisk (scan : Settings.Scan) (files : Files.FileSystem) (path : Path)
    (buffer : Option Text.Given) : Except Failure Bool :=
  match buffer, files.size path with
  | none, some size => isTooLarge scan size
  | _, _ => .ok false

/-- The verdict on a text: it must have no NUL in it, and its bytes must be few enough. -/
def judgeText (scan : Settings.Scan) (text : Text.Given) (origin : Origin) :
    Except Failure Verdict := do
  if text.contains (.char '\x00') then return .turnedAway .binaryFile (some origin)
  let characters ← encodable text
  let tooLarge ← isTooLarge scan (Text.utf8Size characters)
  return if tooLarge then .turnedAway .fileTooLarge (some origin) else .admitted characters origin

/-- The verdict on a file, by its name, its size on disk, and its text. -/
def verdict (scan : Settings.Scan) (files : Files.FileSystem) (path : Path)
    (buffer : Option Text.Given) : Except Failure Verdict := do
  if Files.isBinary path then return .turnedAway .binaryFile none
  let tooLarge ← isTooLargeOnDisk scan files path buffer
  if tooLarge then return .turnedAway .fileTooLarge none
  let (text, origin) ← currentText files path buffer
  judgeText scan text origin

/-! ### Comparisons -/

/-- What scoring is told about an edit. Tests are only looked for where lines changed outside a
test. -/
def scoringContext (engine : Engine) (files : Files.FileSystem) (place : Place)
    (context : Scoring.Context) : Files.Timed Scoring.Context := do
  let isTest := Files.mentionsTests place.shown
  if context.delta.isEmpty || isTest then return { context with isTestFile := isTest }
  let tests ← Impact.nearbyTests files engine.settings.scan place.file
  return { context with isTestFile := isTest, nearbyTests := tests.map (·.toString) }

/-- The analysis when there is nothing to compare. -/
def unchanged (shown : String) (current : List Char) (resolution : Resolution) (origin : Origin) :
    Analysis Weight where
  report := .empty shown
  confidence :=
    scoreOf { path := shown, current := current, isTestFile := Files.mentionsTests shown }
  baseline := resolution
  status := .notAttempted
  delta := {}
  origin := some origin

/-- The report on what an edit breaks; texts without inventories have none. -/
def reportOn (engine : Engine) (files : Files.FileSystem) (place : Place) (changes : ChangeSet) :
    Files.Timed Impact.Report :=
  if changes.status == .failed then pure (.empty place.shown (some "parse_failed"))
  else Impact.report files engine.settings.scan place.file engine.root changes

/-- The analysis of a text that differs from its baseline. -/
def compared (engine : Engine) (files : Files.FileSystem) (place : Place) (edit : Edit)
    (current : List Char) (origin : Origin) (baseline : Resolved) :
    Files.Timed (Analysis Weight) := do
  let language := Files.languageOf place.file
  let before ← encodable baseline.text
  let delta := Lines.delta engine.tools.patch before current
  let changes := ChangeSet.betweenWith engine.tools.collect before current language
  let report ← engine.reportOn files place changes
  let context ← engine.scoringContext files place
    { path := place.shown, current := current, delta := delta, prior := some before
      diagnostics := edit.diagnostics, language := language }
  return {
    report := report
    confidence := scoreOf context
    baseline := baseline.resolution
    status := changes.status
    delta := delta
    origin := some origin }

/-- The analysis of a text against a baseline. -/
def against (engine : Engine) (files : Files.FileSystem) (place : Place) (edit : Edit)
    (current : List Char) (origin : Origin) (baseline : Resolved) :
    Files.Timed (Analysis Weight) :=
  if baseline.isIdle current then
    pure (unchanged place.shown current baseline.resolution origin)
  else engine.compared files place edit current origin baseline

/-! ### Calls -/

/-- What is remembered after an analysis. Where the comparison failed, nothing is recorded. -/
def remembered (settings : Settings.Baseline) (file : Path) (current : List Char)
    (outcome : Outcome) : Except Failure (Analysis Weight) → Caches
  | .ok _ => recorded settings file current outcome
  | .error _ => outcome.caches

/-- Analyses a text that passed the guards. -/
def analyzeText (engine : Engine) (around : Surroundings) (clock : Files.Clock) (place : Place)
    (edit : Edit) (current : List Char) (origin : Origin) :
    Reply (Except Failure (Analysis Weight)) :=
  match requestOf engine.settings.baseline place.file current edit.mode edit.target with
  | .error failure => ⟨.error failure, engine, [], false, clock⟩
  | .ok request =>
    let outcome := resolve engine.settings.baseline around engine.caches request
    let analyzed :=
      (engine.against around.files place edit current origin outcome.baseline).run clock
    let caches :=
      remembered engine.settings.baseline place.file current outcome analyzed.answer
    ⟨analyzed.answer, { engine with caches := caches }, outcome.questions, analyzed.stopped,
      analyzed.clock⟩

/-- The file that a call means, with the verdict on it. -/
def judged (engine : Engine) (files : Files.FileSystem) (edit : Edit) :
    Except Failure (Place × Verdict) := do
  let place ← engine.placeOf files edit.path
  let verdict ← verdict engine.settings.scan files place.file edit.buffer
  return (place, verdict)

/-- Analyses the current text of a file against its baseline. -/
def analyze (engine : Engine) (around : Surroundings) (clock : Files.Clock) (edit : Edit) :
    Reply (Except Failure (Analysis Weight)) :=
  match engine.judged around.files edit with
  | .error failure => ⟨.error failure, engine, [], false, clock⟩
  | .ok (place, .turnedAway reason origin) =>
    ⟨.ok (rejected place.shown reason origin), engine, [], false, clock⟩
  | .ok (place, .admitted current origin) =>
    engine.analyzeText around clock place edit current origin

/-- Forgets all about a file. -/
def clearBaseline (engine : Engine) (files : Files.FileSystem) (path : Path) :
    Except Failure Engine := do
  let file ← engine.absolute files path
  return { engine with caches :=
    { snapshots := engine.caches.snapshots.discard file.toString
      refs := engine.caches.refs.discardPath file.toString } }

/-- Forgets all about every file. -/
def clearAllBaselines (engine : Engine) : Engine := { engine with caches := {} }

/-- Makes a text the snapshot of a file. -/
def updated (engine : Engine) (file : String) (text : Text.Given) : Engine :=
  { engine with caches :=
    { snapshots := engine.caches.snapshots.put file text
      refs := engine.caches.refs.discardPath file } }

/-- Makes a text, or else the text on disk, the snapshot of a file. Says whether there was one. -/
def updateBaseline (engine : Engine) (files : Files.FileSystem) (path : Path)
    (text : Option Text.Given) : Except Failure (Bool × Engine) := do
  let file ← engine.absolute files path
  match text, files.read file with
  | some text, _ => return (true, engine.updated file.toString text)
  | none, .ok text => return (true, engine.updated file.toString (Text.given text))
  | none, .error _ => return (false, engine)

/-- Takes the text on disk as the snapshot of a file that has none. -/
def initializeBaseline (engine : Engine) (files : Files.FileSystem) (path : Path) :
    Except Failure (Bool × Engine) := do
  let file ← engine.absolute files path
  if engine.caches.snapshots.contains file.toString then return (false, engine)
  engine.updateBaseline files path none

end Engine

end EditImpact
