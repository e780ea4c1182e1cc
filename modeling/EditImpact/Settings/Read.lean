import EditImpact.Files.Path
import EditImpact.Settings.Basic
import EditImpact.Settings.Check

/-!
Settings from data. Fields are checked in the order in which they stand here; unknown fields of a
section do not count.
-/

namespace EditImpact.Settings

section

variable (convert : Conversions)

def logLevel : Value → Checked LogLevel := convert.oneOf LogLevel.all LogLevel.name

def logFormat : Value → Checked LogFormat := convert.oneOf [.json, .console] LogFormat.name

def startsAtHome (segment : String) : Bool := segment.toList.head? == some '~'

/-- A path in which a leading tilde, by itself or with the name of a user, stands for a home
directory. -/
def expandHome (home : String → String) (path : Path) : Checked Path :=
  match path.root, path.segments with
  | .relative, first :: rest =>
    if startsAtHome first then
      if startsAtHome (home first) then .homeless
      else
        let start := Path.ofString (home first)
        .accepted { start with segments := start.segments ++ rest }
    else .accepted path
  | _, _ => .accepted path

/-- Where messages go: one of the two streams, or a file given by its absolute path. -/
def logDestination (value : Value) : Checked String :=
  (convert.text value).andThen fun name =>
    if name == "stderr" || name == "stdout" then .accepted name
    else
      (expandHome convert.home (.ofString name)).andThen fun path =>
        if path.isAbsolute then .accepted path.toString
        else refuse value ("Value error, File destination must be absolute path: " ++ name)

def inheritedLevel : Value → Checked (Option LogLevel)
  | .null => .accepted none
  | value => some <$> logLevel convert value

def LogOutput.ofFields (fields : List (String × Value)) : Checked LogOutput :=
  let default : LogOutput := {}
  LogOutput.mk <$> field fields "format" default.format (logFormat convert)
    <*> field fields "destination" default.destination (logDestination convert)
    <*> field fields "level" default.level (inheritedLevel convert)

def logOutput : Value → Checked LogOutput :=
  convert.group "LogOutputConfig" (LogOutput.ofFields convert)

def Logging.ofFields (fields : List (String × Value)) : Checked Logging :=
  let default : Logging := {}
  Logging.mk <$> field fields "level" default.level (logLevel convert)
    <*> field fields "outputs" default.outputs (convert.list (logOutput convert))

/-- The name of a branch or another ref, without the blanks around it. -/
def targetRef (value : Value) : Checked String :=
  (convert.text value).andThen fun name =>
    let trimmed := Text.trim name.toList
    if trimmed.isEmpty then refuse value "Value error, pr_target_branch must not be empty"
    else .accepted (String.ofList trimmed)

def Baseline.ofFields (fields : List (String × Value)) : Checked Baseline :=
  let default : Baseline := {}
  Baseline.mk <$> field fields "mode" default.mode (convert.oneOf [.local, .pr] Mode.name)
    <*> field fields "pr_target_branch" default.target (targetRef convert)
    <*> field fields "git_integration_enabled" default.useGit convert.flag
    <*> field fields "cache_enabled" default.keepSnapshots convert.flag

def Scan.ofFields (fields : List (String × Value)) : Checked Scan :=
  let default : Scan := {}
  Scan.mk <$> field fields "source_patterns" default.sourceGlobs convert.texts
    <*> field fields "test_patterns" default.testGlobs convert.texts
    <*> field fields "timeout_sec" default.timeout convert.positive
    <*> field fields "max_file_size_mb" default.sizeLimit convert.positive
    <*> field fields "extra_excluded_dirs" default.extraExcluded convert.texts

end

def sectionNames : List String := ["logging", "baseline", "scan"]

/-- All settings; sections that are not known do not count. -/
def ofFields (convert : Conversions) (fields : List (String × Value)) : Checked Settings :=
  Settings.mk <$> field fields "logging" {} (convert.group "LoggingConfig" (Logging.ofFields convert))
    <*> field fields "baseline" {} (convert.group "BaselineConfig" (Baseline.ofFields convert))
    <*> field fields "scan" {} (convert.group "ScanConfig" (Scan.ofFields convert))

/-- All settings, where every section has to be known. -/
def ofKnownFields (convert : Conversions) (fields : List (String × Value)) : Checked Settings :=
  (ofFields convert fields).andThen fun settings =>
    match fields.find? fun entry => !sectionNames.contains entry.1 with
    | some (name, value) => (refuse value "Extra inputs are not permitted").below name
    | none => .accepted settings

end EditImpact.Settings
