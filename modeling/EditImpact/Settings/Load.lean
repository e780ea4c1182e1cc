import EditImpact.Failure
import EditImpact.Settings.Read
import EditImpact.Settings.Record
import EditImpact.Settings.Shape
import EditImpact.Value.Merge

/-!
Settings from their layers: defaults, settings files, the environment, and what a caller gives.
Later layers go over earlier ones, field by field. How a file is read, what the environment says of
sections, how two sources are merged and what single values are taken for is up to the tools at hand.
-/

namespace EditImpact.Settings

/-- What a settings file holds, and whether all names at its top are texts. -/
structure Document where
  value : Value
  named : Bool := true

structure Tools extends Conversions where
  /-- The data that a text holds, or why it holds none. -/
  yaml : List Char → Except String Document
  /-- What variables say, whose names begin in a certain way, of sections of certain forms; none if one
  of the variables cannot be read. -/
  readVariables (start : String) (sections : List (String × Shape))
    (environment : List (String × String)) : Option (List (String × Value))
  /-- Fields with others laid over them. -/
  merge (held fields : List (String × Value)) : List (String × Value)

/-- Why settings could not be loaded. -/
inductive LoadProblem where
  | malformed (path : Path) (reason : String)
  /-- A settings file holds something other than a map. -/
  | notMap (path : Path)
  /-- A variable of the environment cannot be read. -/
  | environment
  /-- A settings file has a section whose name is no text. -/
  | nameless
  | invalid (problem : Problem)
  /-- The settings that came out are not accepted themselves. -/
  | unstable (problem : Problem)
  | homeless

/-- The failure that a caller is told of, where there is one. -/
def LoadProblem.failure? : LoadProblem → Option Failure
  | malformed path reason => some (.settingsUnreadable path.toString reason)
  | notMap path => some (.settingsUnreadable path.toString "top-level value must be a mapping")
  | invalid problem => some (.settingInvalid problem.field problem.value problem.reason)
  | environment | nameless | unstable _ | homeless => none

/-- The outcome of a check of settings. -/
def Checked.loaded {Item : Type} (problemOf : Problem → LoadProblem) :
    Checked Item → Except LoadProblem Item
  | accepted item => .ok item
  | refused problem => .error (problemOf problem)
  | homeless => .error .homeless

structure Layer where
  fields : List (String × Value) := []
  named : Bool := true

section

variable (tools : Tools)

/-- A settings file; an empty one says nothing. -/
def Layer.read (path : Path) (text : List Char) : Except LoadProblem Layer :=
  match tools.yaml text with
  | .error reason => .error (.malformed path reason)
  | .ok document =>
    match document.value with
    | .null => .ok {}
    | .map fields => .ok ⟨fields, document.named⟩
    | _ => .error (.notMap path)

def Layer.overlay (base layer : Layer) : Layer :=
  ⟨Value.overlayFields base.fields layer.fields, base.named && layer.named⟩

/-- Settings files laid over each other, the first one lowest. -/
def Layer.readAll (base : Layer) : List (Path × List Char) → Except LoadProblem Layer
  | [] => .ok base
  | (path, text) :: rest => do
    let layer ← Layer.read tools path text
    Layer.readAll (base.overlay layer) rest

/-- The beginning of the names of variables. -/
def variableStart : String := "IMPACTLENS__"

/-- What the environment says. -/
def outside (environment : List (String × String)) : Except LoadProblem (List (String × Value)) :=
  match tools.readVariables variableStart Shape.sections environment with
  | some fields => .ok fields
  | none => .error .environment

/-- The fields that come out of several sources, the highest one first. Each is asked in its turn and
goes below what is there already. -/
def layered (held : List (String × Value)) :
    List (Except LoadProblem (List (String × Value))) →
      Except LoadProblem (List (String × Value))
  | [] => .ok held
  | source :: sources => do layered (tools.merge (← source) held) sources

/-- The settings that come out of all layers. They are written as data and checked once more. -/
def load (files : List (Path × List Char)) (environment : List (String × String))
    (given : List (String × Value)) : Except LoadProblem Settings := do
  let base ← Layer.readAll tools {} files
  let fields ← layered tools [] [.ok given, outside tools environment, .ok base.fields]
  let settings ←
    if base.named then (ofKnownFields tools.toConversions fields).loaded .invalid
    else .error .nameless
  (ofFields tools.toConversions settings.fields).loaded .unstable

end

end EditImpact.Settings
