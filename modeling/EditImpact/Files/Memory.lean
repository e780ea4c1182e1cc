import EditImpact.Files.System
import EditImpact.Text.Utf8

/-!
A tree of files that is held in memory. Directories are the proper beginnings of the paths of
files.
-/

namespace EditImpact.Files

/-- A file; a problem makes every read fail, and a given size stands for the size of the text. -/
structure MemoryFile where
  text : List Char := []
  problem : Option String := none
  size : Option (Option Nat) := none

abbrev MemoryTree := List (Path × MemoryFile)

namespace MemoryTree

def find? (tree : MemoryTree) (path : Path) : Option MemoryFile :=
  (List.find? (fun file : Path × MemoryFile => file.1 == path) tree).map (·.2)

def isDirectory (tree : MemoryTree) (path : Path) : Bool :=
  tree.any fun file => file.1 != path && (file.1.relativeTo? path).isSome

def read (tree : MemoryTree) (path : Path) : Except String (List Char) :=
  match tree.find? path.resolve with
  | some file =>
    match file.problem with
    | some problem => .error problem
    | none => .ok file.text
  | none =>
    .error (if tree.isDirectory path.resolve then "Is a directory" else "No such file or directory")

def size (tree : MemoryTree) (path : Path) : Option Nat :=
  match tree.find? path.resolve with
  | some file => file.size.getD (some (Text.utf8Size file.text))
  | none => none

/-- Sets a file in place, or adds it. -/
def put (path : Path) (file : MemoryFile) : MemoryTree → MemoryTree
  | [] => [(path, file)]
  | (other, held) :: rest =>
    if other == path then (path, file) :: rest else (other, held) :: put path file rest

def remove (path : Path) (tree : MemoryTree) : MemoryTree := tree.filter fun file => file.1 != path

/-- The directories above a path, from the root down. -/
def ancestors (path : Path) : List Path :=
  (List.range path.segments.length).map fun count =>
    { path with segments := path.segments.take count }

def distinctList (paths : List Path) : List Path :=
  paths.foldl (fun found path => if found.contains path then found else found ++ [path]) []

/-- The entry that a file adds to the listing of a directory above it. -/
def entryBelow (directory : Path) (path : Path) : Option Entry :=
  match (path.relativeTo? directory).map (·.segments) with
  | some (name :: rest) => some ⟨name, directory.child name, !rest.isEmpty⟩
  | _ => none

def addEntry (entries : List Entry) (entry : Entry) : List Entry :=
  if entries.any (·.name == entry.name) then entries else entries ++ [entry]

def entriesOf (tree : MemoryTree) (directory : Path) : List Entry :=
  ((tree.filterMap fun file => entryBelow directory file.1).foldl addEntry []).mergeSort
    fun a b => a.name ≤ b.name

def directories (tree : MemoryTree) : List Path :=
  distinctList (tree.flatMap fun file => ancestors file.1)

def fileSystem (tree : MemoryTree) : FileSystem where
  read := fun path => (tree.read path).mapError some
  size := tree.size
  listings := (directories tree).map fun directory => (directory, tree.entriesOf directory)

end MemoryTree

end EditImpact.Files
