import EditImpact.ChangeSet
import EditImpact.LineDelta
import EditImpact.Value.Basic

/-!
Inventories, change sets and line deltas as data.
-/

namespace EditImpact

def Declaration.toValue (declaration : Declaration) : Value :=
  .map [("name", .text declaration.name), ("kind", .text declaration.kind.name),
    ("line", .nat declaration.line), ("signature", .chars declaration.signature),
    ("display", .chars declaration.shown)]

def Inventory.fields (inventory : Inventory) : List (String × Value) :=
  [("status", .text inventory.status.name), ("method", .text inventory.method.name),
    ("error_text", Value.orNull .text inventory.problem),
    ("language", Value.orNull (fun language => .text language.name) inventory.language),
    ("declarations", .list (inventory.declarations.map Declaration.toValue)),
    ("functions", .texts (inventory.names .function)), ("classes", .texts (inventory.names .class))]

def ChangeSet.fields (changes : ChangeSet) : List (String × Value) :=
  [("functions", .texts changes.functions), ("classes", .texts changes.classes),
    ("parse_status", .text changes.status.name), ("is_empty", .bool changes.isEmpty),
    ("symbols", .texts changes.symbols)]

def LineDelta.fields (delta : LineDelta) : List (String × Value) :=
  [("added", .ints delta.added), ("removed", .ints delta.removed), ("modified", .ints delta.modified)]

def LineDelta.ofValue (value : Value) : LineDelta :=
  { added := value.intsAt "added", removed := value.intsAt "removed"
    modified := value.intsAt "modified" }

end EditImpact
