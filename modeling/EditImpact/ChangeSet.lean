import EditImpact.Inventory.Basic
import EditImpact.Signature.Extract
import EditImpact.Source.Collapse

/-!
Which declarations of a text an edit breaks: those that are gone, and those whose signature differs.
What an edit adds breaks nothing.
-/

namespace EditImpact

/-- The broken functions and classes, in the order of the text before the edit. -/
structure ChangeSet where
  functions : List String := []
  classes : List String := []
  status : ParseStatus := .notAttempted
  deriving DecidableEq, Repr

namespace ChangeSet

def isEmpty (changes : ChangeSet) : Bool := changes.functions.isEmpty && changes.classes.isEmpty

/-- All names, functions first, each once. -/
def symbols (changes : ChangeSet) : List String :=
  Inventory.distinct (changes.functions ++ changes.classes)

/-- The signature of a declaration: the first one found in the text, else what the inventory
knows. -/
def signatureOf (language : Option Language) (kind : DeclarationKind) (text : List Char)
    (inventory : Inventory) (name : String) : Option (List Char) :=
  let found :=
    match kind with
    | .function => Signature.ofFunction language name.toList text
    | .class => Signature.ofClass language name.toList text
  match found with
  | some signature => some signature
  | none =>
    match inventory.first? name kind with
    | some declaration =>
      if declaration.signature.isEmpty then none else some declaration.signature
    | none => none

/-- A text together with its inventory. -/
structure Version where
  text : List Char
  inventory : Inventory

/-- Whether a declaration of one version is broken in another: gone, or known in both with different
signatures. -/
def breaks (language : Option Language) (kind : DeclarationKind) (before after : Version)
    (name : String) : Bool :=
  if (after.inventory.names kind).contains name then
    match signatureOf language kind before.text before.inventory name,
      signatureOf language kind after.text after.inventory name with
    | some old, some new => old != new
    | _, _ => false
  else true

def broken (language : Option Language) (kind : DeclarationKind) (before after : Version) :
    List String :=
  (before.inventory.names kind).filter (breaks language kind before after)

/-- What breaks between two texts, given how inventories are taken. -/
def betweenWith (collect : List Char → Option Language → Inventory) (before after : List Char)
    (language : Option Language) : ChangeSet :=
  if before == after then {}
  else
    let old : Version := ⟨before, collect before language⟩
    let new : Version := ⟨after, collect after language⟩
    if old.inventory.status == .failed || new.inventory.status == .failed then { status := .failed }
    else
      { functions := broken language .function old new
        classes := broken language .class old new
        status := .success }

end ChangeSet

/-- Whether two texts differ in comments and blanks only. -/
def isCosmetic (before after : List Char) (language : Option Language) : Bool :=
  before == after ||
    Source.collapse (Source.stripComments language before) ==
      Source.collapse (Source.stripComments language after)

end EditImpact
