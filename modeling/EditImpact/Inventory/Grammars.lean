import EditImpact.Inventory.Collect
import EditImpact.Parsing.Python.Statements
import EditImpact.Parsing.Script.Statements

/-!
The parsers that come with the program, one for each grammar.
-/

namespace EditImpact.Inventory

open Parsing

def bundledParser : Language.Grammar → Parser
  | .javascript => Script.javascript.parse?
  | .typescript => Script.typescript.parse?
  | .tsx => Script.tsx.parse?
  | .python => Python.python.parse?

def collect (text : List Char) (language : Option Language) : Inventory :=
  collectWith (fun grammar => some (bundledParser grammar)) text language

end EditImpact.Inventory
