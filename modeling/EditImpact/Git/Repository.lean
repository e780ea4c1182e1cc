import EditImpact.Text.Quoted

/-!
What a repository holds: commits with their files, names for them, the head and the index.
-/

namespace EditImpact.Git

/-- Why a question to a repository has no answer. -/
inductive Problem where
  | notRepository (path : String)
  | refNotFound (ref : String)
  | notInTree (path ref : String)
  /-- The head is on a branch that has no commit. -/
  | noCommits
  /-- A reference does not name anything that could be read. -/
  | corruptReference (name : String)
  | other (message : String)
  deriving DecidableEq, Repr

def Problem.kind : Problem → String
  | notRepository _ => "NotARepositoryError"
  | refNotFound _ => "RefNotFoundError"
  | notInTree .. => "PathNotInTreeError"
  | noCommits | corruptReference _ | other _ => "GitError"

def Problem.message : Problem → String
  | notRepository path => "Not a git repository: " ++ path
  | refNotFound ref => "Reference not found: " ++ ref
  | notInTree path ref =>
    "Path " ++ String.ofList (Text.quoted path.toList) ++ " not found at " ++ ref
  | noCommits => "HEAD has no commits (unborn branch)"
  | corruptReference name => "corrupted loose reference file: " ++ name
  | other message => message

structure Commit where
  id : String
  parents : List String := []
  /-- The bytes of every file, by its path from the root of the tree. -/
  files : List (String × List UInt8)
  deriving DecidableEq, Repr

def Commit.blob? (commit : Commit) (path : String) : Option (List UInt8) :=
  (commit.files.find? (·.1 == path)).map (·.2)

/-- What a reference names. -/
inductive Named where
  | commit (id : String)
  /-- Something that leads to no commit. -/
  | noCommit
  /-- The reference cannot be read. -/
  | unreadable
  deriving DecidableEq, Repr

inductive Head where
  | branch (name : String)
  | detached (id : String)
  deriving DecidableEq, Repr

/-- A repository; commits stand after their parents. -/
structure Repository where
  commits : List Commit := []
  branches : List (String × Named) := []
  tags : List (String × Named) := []
  head : Head
  /-- The paths of the files that are staged or taken over from the last commit. -/
  index : List String := []
  deriving DecidableEq, Repr

namespace Repository

def commit? (repository : Repository) (id : String) : Option Commit :=
  repository.commits.find? (·.id == id)

def branch? (repository : Repository) (name : String) : Option Named :=
  (repository.branches.find? (·.1 == name)).map (·.2)

def tag? (repository : Repository) (name : String) : Option Named :=
  (repository.tags.find? (·.1 == name)).map (·.2)

/-- The commit that the head is at; none on a branch that does not exist yet. -/
def headCommit (repository : Repository) : Except Problem (Option Commit) :=
  match repository.head with
  | .detached id => .ok (repository.commit? id)
  | .branch name =>
    match repository.branch? name with
    | none => .ok none
    | some (.commit id) => .ok (repository.commit? id)
    | some _ => .error (.corruptReference ("refs/heads/" ++ name))

def isUnborn (repository : Repository) : Except Problem Bool :=
  repository.headCommit.map (·.isNone)

def mustHeadCommit (repository : Repository) : Except Problem Commit :=
  match repository.headCommit with
  | .error problem => .error problem
  | .ok none => .error .noCommits
  | .ok (some commit) => .ok commit

def namedHead (repository : Repository) : Named :=
  match repository.head with
  | .detached id => .commit id
  | .branch name => (repository.branch? name).getD .noCommit

/-- Takes a start off a name. -/
def after? (start name : String) : Option String :=
  if start.isPrefixOf name then some (String.ofList (name.toList.drop start.length)) else none

/-- What a full name refers to, if there is such a reference. -/
def reference? (repository : Repository) (name : String) : Option Named :=
  if name == "HEAD" then some repository.namedHead
  else
    match after? "refs/heads/" name with
    | some branch => repository.branch? branch
    | none => (after? "refs/tags/" name).bind repository.tag?

/-- What a full or shortened name refers to: a tag goes before a branch. -/
def shortReference? (repository : Repository) (name : String) : Option Named :=
  ["", "refs/", "refs/tags/", "refs/heads/"].findSome? fun start =>
    repository.reference? (start ++ name)

/-- A step from a commit to an earlier one. -/
inductive Step where
  /-- Some generations back, always to the first parent. -/
  | back (generations : Nat)
  /-- To a parent by its number; number zero is the commit itself. -/
  | parent (number : Nat)
  deriving DecidableEq, Repr

def numberOr (digits : List Char) (default : Nat) : Nat :=
  if digits.isEmpty then default
  else digits.foldl (fun total c => total * 10 + (c.toNat - '0'.toNat)) 0

/-- The steps at the end of a revision; none if it is malformed. -/
def steps? : Nat → List Char → Option (List Step)
  | _, [] => some []
  | 0, _ => none
  | fuel + 1, c :: rest =>
    let digits := rest.takeWhile Char.isDigit
    let count := numberOr digits 1
    let further := steps? fuel (rest.drop digits.length)
    if c == '~' then further.map (.back count :: ·)
    else if c == '^' then further.map (.parent count :: ·)
    else none

def firstParent (repository : Repository) : Nat → Commit → Option Commit
  | 0, commit => some commit
  | count + 1, commit =>
    (commit.parents.head?.bind repository.commit?).bind (repository.firstParent count)

def takeStep (repository : Repository) (commit : Commit) : Step → Option Commit
  | .back generations => repository.firstParent generations commit
  | .parent 0 => some commit
  | .parent (number + 1) => commit.parents[number]?.bind repository.commit?

/-- The commit that a name or an id leads to. -/
def namedCommit? (repository : Repository) (name : String) : Option Commit :=
  match repository.shortReference? name with
  | some (.commit id) => repository.commit? id
  | some _ => none
  | none => repository.commit? name

/-- The commit of a revision: a name or an id, and steps back from there. -/
def resolve (repository : Repository) (revision : String) : Except Problem Commit :=
  let text := revision.toList
  let name := text.takeWhile fun c => c != '~' && c != '^'
  let found := do
    let steps ← steps? text.length (text.drop name.length)
    let start ← repository.namedCommit? (String.ofList name)
    steps.foldlM repository.takeStep start
  match found with
  | some commit => .ok commit
  | none => .error (.refNotFound revision)

/-- Adds to known commits all that can be reached from them. -/
def reachFrom (repository : Repository) : Nat → List String → List String
  | 0, known => known
  | fuel + 1, known =>
    let parents := known.flatMap fun id => ((repository.commit? id).map (·.parents)).getD []
    let more := (parents.filter fun id => !known.contains id).eraseDups
    if more.isEmpty then known else repository.reachFrom fuel (known ++ more)

/-- A commit and all that came before it. -/
def ancestors (repository : Repository) (id : String) : List String :=
  repository.reachFrom repository.commits.length [id]

/-- The latest commit before two others that is not before another such commit. -/
def mergeBase (repository : Repository) (one other : String) : Option String :=
  let ofOther := repository.ancestors other
  let common := (repository.ancestors one).filter ofOther.contains
  let isBest := fun id =>
    common.contains id &&
      !common.any fun later => later != id && (repository.ancestors later).contains id
  (repository.commits.reverse.find? fun commit => isBest commit.id).map (·.id)

end Repository

end EditImpact.Git
