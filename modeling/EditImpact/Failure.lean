import EditImpact.Files.System
import EditImpact.Text.CodePoint
import EditImpact.Value.Shown

/-!
Failures that a caller has to act on, each with a name, a message and details. Those that are
foreseen have a number.
-/

namespace EditImpact

/-- How a double can fail to be a number of bytes. -/
inductive Uncountable where
  | infinite
  | notANumber
  deriving DecidableEq, Repr

/-- The kind of a double that is not finite. -/
def Uncountable.ofFloat (x : Float) : Uncountable := if x.isNaN then notANumber else infinite

inductive Failure where
  /-- A settings file is not what it should be. -/
  | settingsUnreadable (path reason : String)
  /-- A setting has a value that it cannot have. -/
  | settingInvalid (field : String) (value : Value) (reason : String)
  | settingsMissing (path : String)
  /-- No text was given and the file cannot be read. -/
  | fileUnreadable (path : String)
  | modeUnknown (mode : String)
  | unexpected (reason : String) (details : List (String × Value))
  /-- The size limit cannot be told in bytes; nobody foresaw it, so there is no number for it. -/
  | limitUncountable (why : Uncountable)
  /-- A path leads round in a circle, or to no name; nobody foresaw that either. -/
  | unresolvable (why : Files.Unresolved)
  /-- A text cannot be written as bytes, which was not foreseen. -/
  | textUnencodable (why : Text.Halves)

namespace Failure

def code : Failure → Option Nat
  | settingsUnreadable .. => some 2001
  | settingInvalid .. => some 2002
  | settingsMissing .. => some 2004
  | fileUnreadable .. => some 3001
  | modeUnknown .. => some 3002
  | unexpected .. => some 9001
  | limitUncountable _ | unresolvable _ | textUnencodable _ => none

def name : Failure → String
  | settingsUnreadable .. => "CONFIG_PARSE_ERROR"
  | settingInvalid .. => "CONFIG_INVALID_VALUE"
  | settingsMissing .. => "CONFIG_FILE_NOT_FOUND"
  | fileUnreadable .. => "ANALYSIS_FILE_NOT_FOUND"
  | modeUnknown .. => "ANALYSIS_INVALID_MODE"
  | unexpected .. => "INTERNAL_ERROR"
  | limitUncountable .infinite => "OverflowError"
  | limitUncountable .notANumber => "ValueError"
  | unresolvable (.loop _) => "RuntimeError"
  | unresolvable .nul => "ValueError"
  | textUnencodable _ => "UnicodeEncodeError"

/-- The kind of a failure, of which there are several with a number of their own. -/
def kind : Failure → String
  | settingsUnreadable .. | settingInvalid .. | settingsMissing .. => "ConfigError"
  | fileUnreadable .. | modeUnknown .. => "AnalysisError"
  | unexpected .. => "InternalError"
  | failure => failure.name

def message : Failure → String
  | settingsUnreadable path reason => "Failed to parse config at " ++ path ++ ": " ++ reason
  | settingInvalid field _ reason => "Invalid value for '" ++ field ++ "': " ++ reason
  | settingsMissing path => "Config file not found: " ++ path
  | fileUnreadable path => "No buffer supplied and file is unreadable: " ++ path
  | modeUnknown mode =>
    "Unknown baseline mode: " ++ String.ofList (Text.quoted mode.toList) ++
      " (expected 'local' or 'pr')"
  | unexpected reason _ => "Internal error: " ++ reason
  | limitUncountable .infinite => "cannot convert float infinity to integer"
  | limitUncountable .notANumber => "cannot convert float NaN to integer"
  | unresolvable (.loop path) =>
    "Symlink loop from " ++ String.ofList (Text.quoted path.toString.toList)
  | unresolvable .nul => "embedded null byte"
  | textUnencodable why =>
    let place :=
      if why.count = 1 then
        "character '" ++ String.ofList (Text.codeEscape why.first) ++ "' in position " ++
          toString why.start
      else
        "characters in position " ++ toString why.start ++ "-" ++
          toString (why.start + why.count - 1)
    "'utf-8' codec can't encode " ++ place ++ ": surrogates not allowed"

def details : Failure → List (String × Value)
  | settingsUnreadable path reason => [("path", .text path), ("reason", .text reason)]
  | settingInvalid field value reason =>
    [("field", .text field), ("value", .text value.shown), ("reason", .text reason)]
  | settingsMissing path => [("path", .text path)]
  | fileUnreadable path => [("path", .text path)]
  | modeUnknown mode => [("mode", .text mode)]
  | unexpected _ details => details
  | limitUncountable _ | unresolvable _ | textUnencodable _ => []

/-- The failure in one line. -/
def line (failure : Failure) : String :=
  match failure.code with
  | some code => "[" ++ toString code ++ "] " ++ failure.name ++ ": " ++ failure.message
  | none => failure.name ++ ": " ++ failure.message

/-- The failure as data; one without a number is only named. -/
def toValue (failure : Failure) : Value :=
  match failure.code with
  | some code =>
    .map [("code", .nat code), ("error", .text failure.name), ("message", .text failure.message),
      ("retryable", .bool false), ("details", .map failure.details)]
  | none => .map [("error", .text failure.name), ("message", .text failure.message)]

end Failure

end EditImpact
