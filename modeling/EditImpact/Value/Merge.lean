import EditImpact.Value.Basic

/-!
Laying data over other data: maps are merged field by field, all else is replaced.
-/

namespace EditImpact.Value

mutual

/-- A value laid over another one. -/
def overlay (base : Value) : Value → Value
  | map fields =>
    match base with
    | map held => map (overlayFields held fields)
    | _ => map fields
  | null => null
  | bool b => bool b
  | int n => int n
  | float x => float x
  | text s => text s
  | list items => list items
  | special alone inside => special alone inside

/-- Fields laid over those of a map; new ones come last. -/
def overlayFields (held : List (String × Value)) : List (String × Value) → List (String × Value)
  | [] => held
  | (key, value) :: rest =>
    let laid :=
      match find? key held with
      | some base => overlay base value
      | none => value
    overlayFields (putField key laid held) rest

end

end EditImpact.Value
