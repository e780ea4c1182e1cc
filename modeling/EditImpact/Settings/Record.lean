import EditImpact.Settings.Basic
import EditImpact.Value.Basic

/-!
Settings as data.
-/

namespace EditImpact

namespace Settings

def LogOutput.toValue (output : LogOutput) : Value :=
  .map [("format", .text output.format.name), ("destination", .text output.destination),
    ("level", Value.orNull (fun level => .text level.name) output.level)]

def Logging.toValue (logging : Logging) : Value :=
  .map [("level", .text logging.level.name),
    ("outputs", .list (logging.outputs.map LogOutput.toValue))]

def Baseline.toValue (baseline : Baseline) : Value :=
  .map [("mode", .text baseline.mode.name), ("pr_target_branch", .text baseline.target),
    ("git_integration_enabled", .bool baseline.useGit),
    ("cache_enabled", .bool baseline.keepSnapshots)]

def Scan.fields (scan : Scan) : List (String × Value) :=
  [("source_patterns", .texts scan.sourceGlobs), ("test_patterns", .texts scan.testGlobs),
    ("timeout_sec", .float scan.timeout), ("max_file_size_mb", .float scan.sizeLimit),
    ("extra_excluded_dirs", .texts scan.extraExcluded)]

end Settings

def Settings.fields (settings : Settings) : List (String × Value) :=
  [("logging", settings.logging.toValue), ("baseline", settings.baseline.toValue),
    ("scan", .map settings.scan.fields)]

end EditImpact
