import EditImpact.Decimal.Shortest
import EditImpact.Failure

/-!
What can be set: where messages go, where the text before an edit comes from, and which files are
looked at.
-/

namespace EditImpact.Settings

inductive LogLevel where
  | debug
  | info
  | warning
  | error
  | critical
  deriving DecidableEq, Repr

namespace LogLevel

def all : List LogLevel := [debug, info, warning, error, critical]

def name : LogLevel → String
  | debug => "DEBUG"
  | info => "INFO"
  | warning => "WARNING"
  | error => "ERROR"
  | critical => "CRITICAL"

def ofName? (name : String) : Option LogLevel := all.find? (·.name == name)

/-- Levels are ordered by number. -/
def number : LogLevel → Nat
  | debug => 10
  | info => 20
  | warning => 30
  | error => 40
  | critical => 50

end LogLevel

inductive LogFormat where
  | json
  | console
  deriving DecidableEq, Repr

def LogFormat.name : LogFormat → String
  | json => "json"
  | console => "console"

structure LogOutput where
  format : LogFormat := .console
  destination : String := "stderr"
  /-- The level of the whole log if none is given. -/
  level : Option LogLevel := none
  deriving DecidableEq, Repr

structure Logging where
  level : LogLevel := .info
  outputs : List LogOutput := [{}]
  deriving DecidableEq, Repr

/-- What an edit is compared with: the last commit, or the common ancestor with another branch. -/
inductive Mode where
  | «local»
  | pr
  deriving DecidableEq, Repr

namespace Mode

def name : Mode → String
  | «local» => "local"
  | pr => "pr"

def ofName? : String → Option Mode
  | "local" => some «local»
  | "pr" => some pr
  | _ => none

end Mode

structure Baseline where
  mode : Mode := .local
  target : String := "main"
  useGit : Bool := true
  keepSnapshots : Bool := true
  deriving DecidableEq, Repr

structure Scan where
  sourceGlobs : List String :=
    ["*.js", "*.jsx", "*.ts", "*.tsx", "*.py", "*.java", "*.cs", "*.go", "*.rs"]
  testGlobs : List String := ["*.test.*", "*.spec.*", "test_*.*", "*_test.*"]
  timeout : Float := 10
  /-- The size in megabytes up to which files are looked at. -/
  sizeLimit : Float := 5
  extraExcluded : List String := []

/-- The size limit in whole bytes; none if the limit is no finite number. -/
def Scan.byteLimit (scan : Scan) : Option Nat := Decimal.wholePart? (scan.sizeLimit * 1024 * 1024)

/-- The size limit, which has to be a number of bytes to be compared with a size. -/
def Scan.limit (scan : Scan) : Except Failure Nat :=
  match scan.byteLimit with
  | some limit => .ok limit
  | none => .error (.limitUncountable (.ofFloat scan.sizeLimit))

/-- Whether a file of a size is looked at; files of unknown size are. -/
def Scan.admits (scan : Scan) : Option Nat → Except Failure Bool
  | some size => do return size ≤ (← scan.limit)
  | none => .ok true

end Settings

structure Settings where
  logging : Settings.Logging := {}
  baseline : Settings.Baseline := {}
  scan : Settings.Scan := {}

end EditImpact
