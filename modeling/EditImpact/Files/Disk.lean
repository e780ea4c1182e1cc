import EditImpact.Files.System
import EditImpact.Text.Utf8

/-!
A disk with directories, files of bytes, and links. Reading follows links, as far as a fixed number of
them; listings say of a link that it is no directory, whatever it leads to.
-/

namespace EditImpact.Files

inductive Node where
  | file (bytes : List UInt8)
  | directory
  | link (target : Path)
  deriving DecidableEq, Repr

/-- Nodes by the segments of their absolute paths; the directories above each node are nodes too. -/
abbrev Disk := List (List String × Node)

/-- Why a path leads to nothing. -/
inductive DiskProblem where
  | missing
  | notDirectory
  | isDirectory
  | tooManyLinks
  deriving DecidableEq, Repr

def DiskProblem.message : DiskProblem → String
  | missing => "No such file or directory"
  | notDirectory => "Not a directory"
  | isDirectory => "Is a directory"
  | tooManyLinks => "Too many levels of symbolic links"

namespace Disk

def node? (disk : Disk) : List String → Option Node
  | [] => some .directory
  | place => (List.find? (fun entry : List String × Node => entry.1 == place) disk).map (·.2)

def set (place : List String) (node : Node) : Disk → Disk
  | [] => [(place, node)]
  | (other, held) :: rest =>
    if other == place then (place, node) :: rest else (other, held) :: set place node rest

/-- Makes the directories from a place down a path, as far as they are missing. -/
def addDirectories (disk : Disk) (above : List String) : List String → Disk
  | [] => disk
  | name :: rest =>
    let place := above ++ [name]
    let disk := if (disk.node? place).isSome then disk else disk.set place .directory
    addDirectories disk place rest

/-- Puts a node at a path, with the directories above it. -/
def put (disk : Disk) (path : Path) (node : Node) : Disk :=
  set path.segments node (disk.addDirectories [] path.segments.dropLast)

def remove (disk : Disk) (path : Path) : Disk := disk.filter fun entry => entry.1 != path.segments

/-- How many links are followed on the way to a file. -/
def linkLimit : Nat := 40

/-- Follows a path from a place. The first argument is the number of links that may still come. -/
def follow (disk : Disk) (links : Nat) (place : List String) :
    List String → Except DiskProblem (List String × Node)
  | [] => .ok (place, .directory)
  | ".." :: rest => follow disk links place.dropLast rest
  | name :: rest =>
    match disk.node? (place ++ [name]) with
    | none => .error .missing
    | some .directory => follow disk links (place ++ [name]) rest
    | some (.file bytes) =>
      if rest.isEmpty then .ok (place ++ [name], .file bytes) else .error .notDirectory
    | some (.link target) =>
      match links with
      | 0 => .error .tooManyLinks
      | links + 1 =>
        follow disk links (if target.isAbsolute then [] else place) (target.segments ++ rest)
  termination_by segments => (links, segments.length)

def find (disk : Disk) (path : Path) : Except DiskProblem (List String × Node) :=
  disk.follow linkLimit [] path.segments

def «exists» (disk : Disk) (path : Path) : Bool := (disk.find path).toOption.isSome

def isFile (disk : Disk) (path : Path) : Bool :=
  match disk.find path with
  | .ok (_, .file _) => true
  | _ => false

def bytes (disk : Disk) (path : Path) : Except DiskProblem (List UInt8) :=
  match disk.find path with
  | .ok (_, .file bytes) => .ok bytes
  | .ok _ => .error .isDirectory
  | .error problem => .error problem

/-- The text of a file, with every line end as a newline. -/
def read (disk : Disk) (path : Path) : Except String (List Char) :=
  match disk.bytes path with
  | .ok bytes => .ok (Text.unixLines (Text.decodeUtf8 bytes))
  | .error problem => .error problem.message

/-- The size of every directory. -/
def directorySize : Nat := 4096

def size (disk : Disk) (path : Path) : Option Nat :=
  match disk.find path with
  | .ok (_, .file bytes) => some bytes.length
  | .ok _ => some directorySize
  | .error _ => none

/-- The places of all links. -/
def linkPlaces (disk : Disk) : List (List String) :=
  disk.filterMap fun entry =>
    match entry.2 with
    | .link _ => some entry.1
    | _ => none

/-- Replaces links by what they lead to, and tells whether all could be. What is not there stays as
it is. The first argument names the links that are not being followed yet: at another one the way
leads round in a circle, and the rest of the path is left as it is. -/
def realFrom (disk : Disk) (unopened : List (List String)) (place : List String) :
    List String → List String × Bool
  | [] => (place, true)
  | ".." :: rest => realFrom disk unopened place.dropLast rest
  | name :: rest =>
    match disk.node? (place ++ [name]) with
    | some (.link target) =>
      if place ++ [name] ∈ unopened then
        let (reached, whole) :=
          realFrom disk (unopened.erase (place ++ [name])) (if target.isAbsolute then [] else place)
            target.segments
        if whole then realFrom disk unopened reached rest else (reached ++ rest, false)
      else (place ++ name :: rest, false)
    | _ => realFrom disk unopened (place ++ [name]) rest
termination_by segments => (unopened.length, segments.length)
decreasing_by
  · apply Prod.Lex.right
    simp
  · rename_i fresh
    have shorter := List.length_erase_of_mem fresh
    have positive := List.length_pos_of_mem fresh
    apply Prod.Lex.left
    omega
  · apply Prod.Lex.right
    simp
  · apply Prod.Lex.right
    simp

/-- The path without links and dots, as far as that can be told. -/
def realPath (disk : Disk) (path : Path) : Path :=
  { path with
    segments := (disk.realFrom disk.linkPlaces [] path.segments).1.foldl Path.stepInto [] }

/-- The path without links and dots. -/
def resolve (disk : Disk) (path : Path) : Except Unresolved Path :=
  if path.hasNul then .error .nul
  else
    let real := disk.realPath path
    match disk.find real with
    | .error .tooManyLinks => .error (.loop real)
    | _ => .ok real

/-- The entry for a node that lies right in a directory. -/
def entryIn (place : List String) (shown : Path) (entry : List String × Node) : Option Entry :=
  match Path.afterSegments? place entry.1 with
  | some [name] => some ⟨name, shown.child name, entry.2 == .directory⟩
  | _ => none

/-- What lies in a directory, in name order, under the path by which the directory was given. -/
def list (disk : Disk) (path : Path) : List Entry :=
  match disk.find path with
  | .ok (place, .directory) =>
    (disk.filterMap (entryIn place path)).mergeSort fun a b => a.name ≤ b.name
  | _ => []

def directories (disk : Disk) : List Path :=
  ⟨.slash, []⟩ :: (disk.filter fun entry => entry.2 == .directory).map fun entry => ⟨.slash, entry.1⟩

def fileSystem (disk : Disk) : FileSystem where
  resolve := disk.resolve
  read := fun path => (disk.read path).mapError some
  size := disk.size
  listings := disk.directories.map fun directory => (directory, disk.list directory)

end Disk

end EditImpact.Files
