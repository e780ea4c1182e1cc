import EditImpact.Decimal.Shortest
import EditImpact.Text.Quoted
import EditImpact.Value.Basic

/-!
Data as it is shown in messages: texts inside lists and maps are quoted, a text by itself is not.
-/

namespace EditImpact.Value

mutual

/-- A value inside another one. -/
def inner : Value → List Char
  | null => "None".toList
  | bool true => "True".toList
  | bool false => "False".toList
  | int n => (ToString.toString n).toList
  | float x => (Decimal.ofFloat x).toList
  | text s => Text.quoted s.toList
  | list items => ['['] ++ innerItems items ++ [']']
  | map fields => ['\x7b'] ++ innerFields fields ++ ['\x7d']
  | special _ inside => inside.toList

def innerItems : List Value → List Char
  | [] => []
  | [item] => inner item
  | item :: items => inner item ++ [',', ' '] ++ innerItems items

def innerFields : List (String × Value) → List Char
  | [] => []
  | [(key, value)] => Text.quoted key.toList ++ [':', ' '] ++ inner value
  | (key, value) :: fields =>
    Text.quoted key.toList ++ [':', ' '] ++ inner value ++ [',', ' '] ++ innerFields fields

end

def shown : Value → String
  | text s => s
  | special alone _ => alone
  | value => String.ofList (inner value)

end EditImpact.Value
