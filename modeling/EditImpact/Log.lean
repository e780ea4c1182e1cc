import EditImpact.Settings.Basic
import EditImpact.Text.Blank
import EditImpact.Value.Json
import EditImpact.Value.Shown

/-!
Log lines. An entry goes to every output whose level admits it, as one JSON object or as a line for
people to read.
-/

namespace EditImpact.Log

open Settings

structure Entry where
  level : LogLevel
  event : String
  fields : List (String × Value) := []

def levelWord (level : LogLevel) : String :=
  match level with
  | .debug => "debug"
  | .info => "info"
  | .warning => "warning"
  | .error => "error"
  | .critical => "critical"

def levelOfWord? (word : String) : Option LogLevel := LogLevel.all.find? (levelWord · == word)

/-- What is written of an entry: its own fields, and above them what every entry has. An entry that
belongs to an analysis carries the id of that. -/
def Entry.record (entry : Entry) (time : String) (analysis : Option String) :
    List (String × Value) :=
  let fields := Value.putField "event" (.text entry.event) entry.fields
  let fields := Value.putField "level" (.text (levelWord entry.level)) fields
  let fields := Value.putField "timestamp" (.text time) fields
  match analysis with
  | some id => Value.putField "analysis_id" (.text id) fields
  | none => fields

/-- The characters for which a text is quoted. -/
def needsQuotes (c : Char) : Bool := " \t=\r\n\"'".toList.contains c

def fieldText : Value → List Char
  | .text s => if s.toList.any needsQuotes then Text.quoted s.toList else s.toList
  | value => value.inner

/-- The text of a field that is shown without its name. -/
def plainText (value : Value) : List Char := value.shown.toList

def bracketed (text : List Char) : List Char := '[' :: text ++ [']']

/-- The fields that come first in a line and are shown without their names. -/
def leading : List (String × (List Char → List Char)) :=
  [("timestamp", id), ("level", bracketed), ("event", id), ("logger", bracketed),
    ("logger_name", bracketed)]

/-- A line for people: time, level, event and logger, then the other fields in name order. -/
def consoleLine (record : List (String × Value)) : List Char :=
  let first := leading.filterMap fun (key, dress) =>
    (record.find? (·.1 == key)).map fun field => dress (plainText field.2)
  let others := record.filter fun field => !leading.any (·.1 == field.1)
  let named := (others.mergeSort fun a b => a.1 ≤ b.1).map fun (key, value) =>
    key.toList ++ '=' :: fieldText value
  let line := Text.joinWith [' '] ((first ++ named).filter (!·.isEmpty))
  (line.reverse.dropWhile (· == ' ')).reverse

def formatLine (format : LogFormat) (record : List (String × Value)) : List Char :=
  match format with
  | .json => Json.write (.map record)
  | .console => consoleLine record

/-- The level from which on an output takes entries. -/
def outputLevel (logging : Logging) (output : LogOutput) : LogLevel :=
  output.level.getD logging.level

/-- The lines that an entry becomes, each with the place it goes to. -/
def lines (logging : Logging) (time : String) (analysis : Option String) (entry : Entry) :
    List (LogOutput × List Char) :=
  if entry.level.number < logging.level.number then []
  else
    (logging.outputs.filter fun output =>
        (outputLevel logging output).number ≤ entry.level.number).map fun output =>
      (output, formatLine output.format (entry.record time analysis))

/-- A log that is being written: the analysis that entries belong to, and the lines so far. -/
structure State where
  logging : Logging
  analysis : Option String := none
  written : List (LogOutput × List Char) := []

/-- An id is not empty; a fresh one stands in for it. -/
def idOr (id : Option String) (fresh : String) : String :=
  match id with
  | some id => if id.isEmpty then fresh else id
  | none => fresh

namespace State

/-- Later entries belong to an analysis with an id of its own. -/
def enter (state : State) (id : Option String) (fresh : String) : State :=
  { state with analysis := some (idOr id fresh) }

/-- Later entries belong to no analysis. -/
def leave (state : State) : State := { state with analysis := none }

def log (state : State) (time : String) (entry : Entry) : State :=
  { state with written := state.written ++ lines state.logging time state.analysis entry }

end State

end EditImpact.Log
