import EditImpact.Inventory.Basic
import EditImpact.Parsing.Tree
import EditImpact.Signature.Extract

/-!
Declarations read from syntax trees, each node before its children.
-/

namespace EditImpact.Inventory

open Parsing

def textOf (source : List Char) (tree : Tree) : List Char := tree.span.text source

/-- The declaration of a function whose parameters and result stand in `body`. -/
def functionFrom (language : Option Language) (source : List Char) (name body : Tree) (line : Nat) :
    Declaration :=
  let params := ((body.child? .params).map (textOf source)).getD ['(', ')']
  let returned :=
    ((body.child? .returns).map fun tree =>
      Signature.normalizeType language (textOf source tree)).getD []
  { name := String.ofList (textOf source name), kind := .function, line := line
    signature := Signature.build (Signature.normalizeParams language params) returned
    shown := Signature.displayParams language params }

def classFrom (language : Option Language) (source : List Char) (name tree : Tree) : Declaration :=
  let text := textOf source name
  { name := String.ofList text, kind := .class, line := tree.span.line
    signature :=
      (Signature.ofClass language text (textOf source tree)).getD "class".toList }

/-- What a node of a script declares by itself: a named function, a name bound to a function, or a
named class. -/
def declaredInScript (language : Option Language) (source : List Char) (tree : Tree) :
    Option Declaration :=
  match tree.kind with
  | .function =>
    (tree.child? .name).map fun name => functionFrom language source name tree tree.span.line
  | .binding =>
    match tree.child? .name, tree.child? .value with
    | some name, some value =>
      if value.kind == .arrow || value.kind == .function then
        some (functionFrom language source name value tree.span.line)
      else none
    | _, _ => none
  | .classDefinition => (tree.child? .name).map fun name => classFrom language source name tree
  | _ => none

mutual

def scriptTree (language : Option Language) (source : List Char) : Tree → List Declaration
  | .node kind field span children =>
    (declaredInScript language source (.node kind field span children)).toList ++
      scriptTrees language source children

def scriptTrees (language : Option Language) (source : List Char) : List Tree → List Declaration
  | [] => []
  | tree :: trees => scriptTree language source tree ++ scriptTrees language source trees

end

/-- What a Python node declares by itself: a named class, or a named function that is no method. -/
def declaredInPython (source : List Char) (inClass : Bool) (tree : Tree) : Option Declaration :=
  match tree.kind with
  | .function =>
    if inClass then none
    else
      (tree.child? .name).map fun name =>
        functionFrom (some .python) source name tree tree.span.line
  | .classDefinition => (tree.child? .name).map fun name => classFrom (some .python) source name tree
  | _ => none

/-- Whether functions directly below a node are methods. -/
def inClassBelow (inClass : Bool) : Kind → Bool
  | .function => false
  | .classDefinition => true
  | _ => inClass

mutual

def pythonTree (source : List Char) (inClass : Bool) : Tree → List Declaration
  | .node kind field span children =>
    (declaredInPython source inClass (.node kind field span children)).toList ++
      pythonTrees source (inClassBelow inClass kind) children

def pythonTrees (source : List Char) (inClass : Bool) : List Tree → List Declaration
  | [] => []
  | tree :: trees => pythonTree source inClass tree ++ pythonTrees source inClass trees

end

end EditImpact.Inventory
