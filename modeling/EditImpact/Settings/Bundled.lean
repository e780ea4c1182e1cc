import EditImpact.Settings.Conversions
import EditImpact.Settings.Environment
import EditImpact.Settings.Load
import EditImpact.Yaml.Read

/-!
The tools for settings that come with the program.
-/

namespace EditImpact.Settings

/-- What a settings file holds. -/
def documentOf (text : List Char) : Except String Document :=
  match Yaml.read? text with
  | some read => .ok ⟨read.value, read.plainKeys⟩
  | none => .error "the text is not YAML"

def bundledTools (homes : List (String × String)) : Tools where
  toConversions := bundledConversions homes
  yaml := documentOf
  readVariables start sections entries :=
    environmentFields? (.ofList entries) (Environment.lowered start) sections
  merge := Value.overlayFields

end EditImpact.Settings
