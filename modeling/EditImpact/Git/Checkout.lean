import EditImpact.Baseline.Resolve
import EditImpact.Files.Disk
import EditImpact.Git.Repository

/-!
A repository together with the directory that it is checked out in, and what it says of the files
there. Whatever goes wrong only means that there is no answer.
-/

namespace EditImpact.Git

structure Checkout where
  repository : Repository
  root : Path

namespace Checkout

/-- The path of a file in trees and in the index. A path outside the checkout stands for itself. -/
def relative (checkout : Checkout) (resolve : Path → Path) (path : Path) : String :=
  if path.isAbsolute then
    (((resolve path).relativeTo? (resolve checkout.root)).getD path).toString
  else path.toString

def isInIndex (checkout : Checkout) (resolve : Path → Path) (path : Path) : Bool :=
  checkout.repository.index.contains (checkout.relative resolve path)

/-- The bytes of a file in a commit. -/
def blobAt (checkout : Checkout) (resolve : Path → Path) (commit : Commit) (path : Path) :
    Except Problem (List UInt8) :=
  let name := checkout.relative resolve path
  match commit.blob? name with
  | some bytes => .ok bytes
  | none => .error (.notInTree name commit.id)

/-- Whether a file is in the index or in the last commit. -/
def isTracked (checkout : Checkout) (resolve : Path → Path) (path : Path) : Bool :=
  checkout.isInIndex resolve path ||
    match checkout.repository.headCommit with
    | .ok (some head) => (checkout.blobAt resolve head path).toOption.isSome
    | _ => false

def currentRef (checkout : Checkout) : Option String :=
  match checkout.repository.headCommit with
  | .ok (some head) => some head.id
  | _ => none

def mergeBase (checkout : Checkout) (ref : String) : Option String :=
  match checkout.repository.mustHeadCommit, checkout.repository.resolve ref with
  | .ok head, .ok target => checkout.repository.mergeBase head.id target.id
  | _, _ => none

def readAt (checkout : Checkout) (resolve : Path → Path) (path : Path) (ref : String) :
    Option (List Char) :=
  match checkout.repository.resolve ref with
  | .error _ => none
  | .ok commit => (checkout.blobAt resolve commit path).toOption.map Text.decodeUtf8

/-- Version control as the search for baselines asks it. -/
def vcs (checkout : Checkout) (resolve : Path → Path) : Baseline.Vcs where
  root := some checkout.root
  currentRef := .ok checkout.currentRef
  isTracked := fun path => .ok (checkout.isTracked resolve path)
  mergeBase := fun ref => .ok (checkout.mergeBase ref)
  readAt := fun path ref => .ok (checkout.readAt resolve path ref)

/-- Whether a path that exists lies in the checkout. -/
def holds (checkout : Checkout) (disk : Files.Disk) (path : Path) : Bool :=
  disk.exists path && ((disk.realPath path).relativeTo? (disk.realPath checkout.root)).isSome

/-- The checkout that a directory lies in. -/
def opened (disk : Files.Disk) (checkout : Option Checkout) (path : Path) :
    Except Problem Checkout :=
  match checkout with
  | some checkout =>
    if checkout.holds disk path then .ok checkout else .error (.notRepository path.toString)
  | none => .error (.notRepository path.toString)

/-- The checkout that a file or a directory lies in. -/
def discover (disk : Files.Disk) (checkout : Option Checkout) (path : Path) :
    Except Problem Checkout :=
  opened disk checkout (if disk.isFile path then path.parent else path)

end Checkout

end EditImpact.Git
