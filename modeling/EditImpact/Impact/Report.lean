import EditImpact.Impact.TestSearch
import EditImpact.Value.Json
import EditImpact.Value.Order

/-!
The report on one edit: what it breaks and what that may affect.
-/

namespace EditImpact.Impact

inductive IssueKind where
  | downstream
  | test
  | function
  | «class»
  deriving DecidableEq, Repr

namespace IssueKind

def all : List IssueKind := [downstream, test, function, «class»]

def name : IssueKind → String
  | downstream => "downstream"
  | test => "test"
  | function => "function"
  | «class» => "class"

def ofName? (name : String) : Option IssueKind := all.find? (·.name == name)

end IssueKind

structure Issue where
  kind : IssueKind
  target : String
  deriving DecidableEq, Repr

/-- A report; the reason says why it is empty. -/
structure Report where
  sourceFile : String
  functions : List String := []
  classes : List String := []
  downstreamFiles : List String := []
  tests : List String := []
  issues : List Issue := []
  reason : Option String := none
  deriving DecidableEq, Repr

inductive Risk where
  | low
  | medium
  | high
  deriving DecidableEq, Repr

def Risk.name : Risk → String
  | low => "low"
  | medium => "medium"
  | high => "high"

namespace Report

def empty (sourceFile : String) (reason : Option String := none) : Report :=
  { sourceFile := sourceFile, reason := reason }

def isEmpty (report : Report) : Bool :=
  report.functions.isEmpty && report.classes.isEmpty && report.downstreamFiles.isEmpty &&
    report.tests.isEmpty

/-- Nothing broken is low; many affected files, or many functions without a test, are high. -/
def risk (report : Report) : Risk :=
  if report.isEmpty then .low
  else if 5 < report.downstreamFiles.length then .high
  else if report.tests.isEmpty && 3 < report.functions.length then .high
  else .medium

/-- A list of names as data. -/
def names : List String → List Value
  | [] => []
  | name :: rest => .text name :: names rest

def issueValue (issue : Issue) : Value :=
  .map [("type", .text issue.kind.name), ("target", .text issue.target)]

def issueValues : List Issue → List Value
  | [] => []
  | issue :: rest => issueValue issue :: issueValues rest

def toValue (report : Report) : Value :=
  .map ([("sourceFile", .text report.sourceFile), ("functions", .list (names report.functions)),
    ("classes", .list (names report.classes)),
    ("downstreamFiles", .list (names report.downstreamFiles)),
    ("tests", .list (names report.tests)), ("issues", .list (issueValues report.issues))] ++
    match report.reason with
    | none => []
    | some reason => [("reason", .text reason)])

/-- The report that data stand for; what is missing is empty, and issues of unknown kind are left
out. -/
def ofValue (value : Value) : Report :=
  { sourceFile := value.textAt "sourceFile"
    functions := value.textsAt "functions"
    classes := value.textsAt "classes"
    downstreamFiles := value.textsAt "downstreamFiles"
    tests := value.textsAt "tests"
    issues := (value.itemsAt "issues").filterMap fun issue =>
      (IssueKind.ofName? (issue.textAt "type")).map (⟨·, issue.textAt "target"⟩)
    reason := value.textAt? "reason" }

/-- The report as indented text. -/
def serialize (report : Report) : List Char := Json.indent 0 report.toValue

/-- Reports are compared by their text, with fields in name order. -/
def sameText (a b : Report) : Bool :=
  Json.write a.toValue.inNameOrder == Json.write b.toValue.inNameOrder

end Report

/-- A path as it is shown: from the root if it lies below it, else as it is. -/
def shownFrom (files : Files.FileSystem) (root path : Path) : Except Failure String :=
  let relative? : Except Files.Unresolved (Option Path) := do
    let real ← files.resolve path
    let top ← files.resolve root
    return real.relativeTo? top
  match relative? with
  | .ok (some relative) => .ok relative.toString
  | .ok none | .error .nul => .ok path.toString
  | .error why => .error (.unresolvable why)

def allShownFrom (files : Files.FileSystem) (root : Path) (paths : List Path) :
    Except Failure (List String) :=
  paths.mapM (shownFrom files root)

/-- The issues of a report: affected files, tests, functions, classes. -/
def issuesOf (downstream tests functions classes : List String) : List Issue :=
  downstream.map (⟨.downstream, ·⟩) ++ tests.map (⟨.test, ·⟩) ++ functions.map (⟨.function, ·⟩) ++
    classes.map (⟨.class, ·⟩)

/-- The report on a change; without a broken symbol nothing is scanned. -/
def report (files : Files.FileSystem) (scan : Settings.Scan) (source root : Path)
    (changes : ChangeSet) : Files.Timed Report := do
  let shown ← shownFrom files root source
  if changes.isEmpty then return .empty shown
  let scanned ← scanDownstream files scan source changes
  let found ← findTests files scan source (some root) changes.symbols
  let downstream ← allShownFrom files root scanned.files
  let tests ← allShownFrom files root found
  return {
    sourceFile := shown
    functions := changes.functions
    classes := changes.classes
    downstreamFiles := downstream
    tests := tests
    issues := issuesOf downstream tests changes.functions changes.classes }

end EditImpact.Impact
