import EditImpact.Value.Basic

/-!
Data with the fields of every map in name order, so that equal maps are equal lists of fields.
-/

namespace EditImpact.Value

mutual

def inNameOrder : Value → Value
  | list items => list (itemsInNameOrder items)
  | map fields => map ((fieldsInNameOrder fields).mergeSort fun a b => a.1 ≤ b.1)
  | null => null
  | bool b => bool b
  | int n => int n
  | float x => float x
  | text s => text s
  | special alone inside => special alone inside

def itemsInNameOrder : List Value → List Value
  | [] => []
  | item :: items => inNameOrder item :: itemsInNameOrder items

def fieldsInNameOrder : List (String × Value) → List (String × Value)
  | [] => []
  | (key, value) :: fields => (key, inNameOrder value) :: fieldsInNameOrder fields

end

end EditImpact.Value
