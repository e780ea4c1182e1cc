import EditImpact.Language

/-!
What a source text declares: its functions and classes, with the place and the contract of each.
-/

namespace EditImpact

inductive DeclarationKind where
  | function
  | «class»
  deriving DecidableEq, Repr

def DeclarationKind.name : DeclarationKind → String
  | .function => "function"
  | .class => "class"

/-- A named declaration. The signature leaves out the names of parameters; the shown parameters
keep them. -/
structure Declaration where
  name : String
  kind : DeclarationKind
  line : Nat
  signature : List Char
  shown : List Char := []
  deriving DecidableEq, Repr

/-- Whether the declarations of a text could be told. -/
inductive ParseStatus where
  | success
  | failed
  | notAttempted
  deriving DecidableEq, Repr

def ParseStatus.name : ParseStatus → String
  | .success => "success"
  | .failed => "failed"
  | .notAttempted => "not_attempted"

/-- How declarations were found. -/
inductive Method where
  | trees
  | lines
  | none
  deriving DecidableEq, Repr

def Method.name : Method → String
  | .trees => "tree-sitter"
  | .lines => "heuristic"
  | .none => "none"

/-- The declarations of one text; those of a text that failed are unknown. -/
structure Inventory where
  declarations : List Declaration
  status : ParseStatus
  language : Option Language
  method : Method := .none
  problem : Option String := none
  deriving DecidableEq, Repr

namespace Inventory

def failed (language : Option Language) (problem : String) : Inventory :=
  { declarations := [], status := .failed, language := language, problem := some problem }

/-- The distinct members of a list, in order of first appearance. -/
def distinct : List String → List String
  | [] => []
  | name :: names => name :: (distinct names).filter (· != name)

/-- The distinct names of a kind, in source order. -/
def names (inventory : Inventory) (kind : DeclarationKind) : List String :=
  distinct ((inventory.declarations.filter (·.kind == kind)).map (·.name))

def first? (inventory : Inventory) (name : String) (kind : DeclarationKind) :
    Option Declaration :=
  inventory.declarations.find? fun declaration =>
    declaration.kind == kind && declaration.name == name

end Inventory

end EditImpact
