/-!
Nested data: what settings files hold, what reports are written as and what log lines carry. Maps
keep their fields in order.
-/

namespace EditImpact

inductive Value where
  | null
  | bool (b : Bool)
  | int (n : Int)
  | float (x : Float)
  | text (s : String)
  | list (items : List Value)
  | map (fields : List (String × Value))
  /-- Data of another kind, such as a date: how it is shown alone, and inside other data. -/
  | special (alone inside : String)
  deriving Inhabited

namespace Value

def texts (items : List String) : Value := list (items.map text)

def chars (text : List Char) : Value := .text (String.ofList text)

def ints (numbers : List Int) : Value := list (numbers.map int)

def nat (n : Nat) : Value := int n

def nats (numbers : List Nat) : Value := list (numbers.map nat)

/-- The given value, or null when there is none. -/
def orNull {Item : Type} (write : Item → Value) : Option Item → Value
  | some item => write item
  | none => null

def find? (key : String) (fields : List (String × Value)) : Option Value :=
  (fields.find? (·.1 == key)).map (·.2)

/-- A field of a map. -/
def field? (key : String) : Value → Option Value
  | map fields => find? key fields
  | _ => none

/-- Sets a field in place, or adds it at the end. -/
def putField (key : String) (value : Value) : List (String × Value) → List (String × Value)
  | [] => [(key, value)]
  | (other, held) :: rest =>
    if other == key then (key, value) :: rest else (other, held) :: putField key value rest

def text? : Value → Option String
  | text s => some s
  | _ => none

def int? : Value → Option Int
  | int n => some n
  | _ => none

def bool? : Value → Option Bool
  | bool b => some b
  | _ => none

/-- A number of either kind as a double. -/
def number? : Value → Option Float
  | int n => some (Float.ofInt n)
  | float x => some x
  | _ => none

/-- The items of a list; anything else has none. -/
def items : Value → List Value
  | list items => items
  | _ => []

/-- The fields of a map; anything else has none. -/
def fields : Value → List (String × Value)
  | map fields => fields
  | _ => []

/-- A field of a map, null if it is missing. -/
def get (value : Value) (key : String) : Value := (value.field? key).getD null

def textAt? (value : Value) (key : String) : Option String := (value.get key).text?

def textOr (value : Value) (key default : String) : String := (value.textAt? key).getD default

/-- The text of a field, empty if there is none. -/
def textAt (value : Value) (key : String) : String := value.textOr key ""

def charsAt (value : Value) (key : String) : List Char := (value.textAt key).toList

def itemsAt (value : Value) (key : String) : List Value := (value.get key).items

/-- The texts in the list that a field is. -/
def textsAt (value : Value) (key : String) : List String := (value.itemsAt key).filterMap text?

def intsAt (value : Value) (key : String) : List Int := (value.itemsAt key).filterMap int?

def fieldsAt (value : Value) (key : String) : List (String × Value) := (value.get key).fields

end Value

end EditImpact
