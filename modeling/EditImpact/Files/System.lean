import EditImpact.Files.Path

/-!
What is known of a file system: texts and sizes of files, and the entries of each directory.
-/

namespace EditImpact.Files

structure Entry where
  name : String
  path : Path
  isDirectory : Bool
  deriving DecidableEq, Repr

/-- Why a path cannot be resolved. -/
inductive Unresolved where
  /-- Its links lead round in a circle; the path is what was left of it there. -/
  | loop (path : Path)
  /-- No file has such a name. -/
  | nul
  deriving DecidableEq, Repr

/-- Takes out two dots, without a look at any link. -/
def resolveLexically (path : Path) : Except Unresolved Path :=
  if path.hasNul then .error .nul else .ok path.resolve

/-- A file system at one moment. `listings` names every directory once, with its entries in name
order. A read that fails may say why. Resolving a path follows links where there are any. -/
structure FileSystem where
  resolve : Path → Except Unresolved Path := resolveLexically
  read : Path → Except (Option String) (List Char)
  size : Path → Option Nat
  listings : List (Path × List Entry)

namespace FileSystem

def directories (files : FileSystem) : List Path := files.listings.map (·.1)

/-- The entries of a directory; what is no directory has none. -/
def entries (files : FileSystem) (directory : Path) : List Entry :=
  ((files.listings.find? fun listing => listing.1 == directory).map (·.2)).getD []

end FileSystem

end EditImpact.Files
