import EditImpact.Settings.Shape
import EditImpact.Text.Blank
import EditImpact.Text.LetterCase
import EditImpact.Value.Json
import EditImpact.Value.Merge

/-!
Settings from the environment. The name of a variable is a path to a setting, with its parts divided
by two underscores after the first part; the case of names does not count.
-/

namespace EditImpact.Settings

/-- Variables by name, names in lower case. -/
structure Environment where
  entries : List (String × String)

namespace Environment

def lowered (name : String) : String := String.ofList (Text.lower name.toList)

def ofList (entries : List (String × String)) : Environment :=
  ⟨entries.map fun (name, text) => (lowered name, text)⟩

/-- The text of a variable; of two with one name the last counts. -/
def get? (environment : Environment) (name : String) : Option String :=
  (environment.entries.reverse.find? (·.1 == name)).map (·.2)

end Environment

/-- The parts of a name between double underscores. -/
def nameParts : List Char → List (List Char)
  | '_' :: '_' :: rest => [] :: nameParts rest
  | c :: rest =>
    match nameParts rest with
    | [] => [[c]]
    | part :: parts => (c :: part) :: parts
  | [] => [[]]

/-- What a variable says of a setting of a given form: lists are written as JSON. None if they are
not. -/
def variableValue? (shape : Option Shape) (text : String) : Option Value :=
  match shape with
  | some (.list _) => if text.isEmpty then some (.text text) else Json.read? text.toList
  | _ => some (.text text)

/-- Puts a value at the end of a path of keys. Nothing is put below what is no map. -/
def putAt (value : Value) : List String → List (String × Value) → List (String × Value)
  | [], fields => fields
  | [key], fields => Value.putField key value fields
  | key :: keys, fields =>
    match Value.find? key fields with
    | none => Value.putField key (.map (putAt value keys [])) fields
    | some (.map held) => Value.putField key (.map (putAt value keys held)) fields
    | some _ => fields

/-- The fields of a section that have variables of their own; none if one cannot be read. -/
def variableFields? (shape : Shape) (start : List Char) :
    List (String × String) → List (String × Value) → Option (List (String × Value))
  | [], fields => some fields
  | (name, text) :: rest, fields =>
    match Text.afterStart? start name.toList with
    | none => variableFields? shape start rest fields
    | some ending => do
      let keys := (nameParts ending).map String.ofList
      let value ← variableValue? (shape.at? keys) text
      variableFields? shape start rest (putAt value keys fields)

/-- The fields of a section under the names that the section gives them. -/
def knownNames (shape : Shape) (fields : List (String × Value)) : List (String × Value) :=
  fields.foldl (fun named (name, value) =>
    let known := (shape.fields.find? fun entry => Environment.lowered entry.1 == Environment.lowered name)
    Value.putField ((known.map (·.1)).getD name) value named) []

/-- What the environment says of a section: a variable for all of it as JSON, with those for single
fields laid over it. The outer option is none if a variable cannot be read. -/
def sectionValue? (environment : Environment) (start name : String) (shape : Shape) :
    Option (Option Value) :=
  let own := start ++ name
  let single := variableFields? shape (own ++ "__").toList environment.entries []
  match environment.get? own with
  | none => single.map fun fields =>
    if fields.isEmpty then none else some (.map (knownNames shape fields))
  | some text =>
    match Json.read? text.toList with
    | none => none
    | some .null => some none
    | some (.map fields) => single.map fun further =>
      some (.map (knownNames shape (Value.overlayFields fields further)))
    | some value => some (some value)

/-- What the environment says, section by section. -/
def environmentFields? (environment : Environment) (start : String) :
    List (String × Shape) → Option (List (String × Value))
  | [] => some []
  | (name, shape) :: rest => do
    let value ← sectionValue? environment start name shape
    let fields ← environmentFields? environment start rest
    return match value with
      | some value => (name, value) :: fields
      | none => fields

end EditImpact.Settings
