/-!
The forms of settings: which sections there are, and what stands in them.
-/

namespace EditImpact.Settings

/-- The form of a setting: a single value, a list with the fields of its items, or a section. -/
inductive Shape where
  | single
  | list (fields : List (String × Shape))
  | group (fields : List (String × Shape))

namespace Shape

def fields : Shape → List (String × Shape)
  | single => []
  | list fields => fields
  | group fields => fields

def next? (shape : Shape) (key : String) : Option Shape :=
  (shape.fields.find? (·.1 == key)).map (·.2)

/-- The form of what a path of keys leads to, if anything. -/
def at? (shape : Shape) : List String → Option Shape
  | [] => some shape
  | key :: keys => (shape.next? key).bind (·.at? keys)

def logging : Shape :=
  group [("level", single),
    ("outputs", list [("format", single), ("destination", single), ("level", single)])]

def baseline : Shape :=
  group [("mode", single), ("pr_target_branch", single), ("git_integration_enabled", single),
    ("cache_enabled", single)]

def scan : Shape :=
  group [("source_patterns", list []), ("test_patterns", list []), ("timeout_sec", single),
    ("max_file_size_mb", single), ("extra_excluded_dirs", list [])]

/-- The sections and their forms. -/
def sections : List (String × Shape) :=
  [("logging", logging), ("baseline", baseline), ("scan", scan)]

end Shape

end EditImpact.Settings
