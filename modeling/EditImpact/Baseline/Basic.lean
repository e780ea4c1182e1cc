import EditImpact.Text.CodePoint

/-!
Where the text before an edit comes from, and why from there.
-/

namespace EditImpact.Baseline

/-- The kind of source that a baseline was taken from. -/
inductive RefKind where
  | head
  | mergeBase
  | commit
  | snapshot
  | none
  deriving DecidableEq, Repr

namespace RefKind

def name : RefKind → String
  | head => "vcsHead"
  | mergeBase => "vcsMergeBase"
  | commit => "vcsCommit"
  | snapshot => "snapshot"
  | none => "none"

def all : List RefKind := [head, mergeBase, commit, snapshot, none]

def ofName? (name : String) : Option RefKind := all.find? (·.name == name)

/-- Whether the text comes from version control. -/
def isVersioned : RefKind → Bool
  | head | mergeBase | commit => true
  | snapshot | none => false

end RefKind

/-- Why a source was passed over. -/
inductive Skip where
  | mergeBaseUnavailable
  | notTracked
  | notAtRef
  | refUnavailable
  | gitDisabled
  | noRepository
  | cacheDisabled
  | noSnapshot
  | gitProblem (message : String)
  | diskProblem (message : String)
  deriving DecidableEq, Repr

def Skip.text : Skip → String
  | mergeBaseUnavailable => "merge_base_unavailable"
  | notTracked => "file_not_tracked"
  | notAtRef => "file_not_at_ref"
  | refUnavailable => "git_ref_unavailable"
  | gitDisabled => "git_integration_disabled"
  | noRepository => "no_repository"
  | cacheDisabled => "cache_disabled"
  | noSnapshot => "no_cached_snapshot"
  | gitProblem message => "git_error: " ++ message
  | diskProblem message => "disk_read_error: " ++ message

/-- What is said about the choice of a baseline. -/
inductive Reason where
  /-- A better source was passed over. -/
  | skipped (skip : Skip)
  /-- Version control was passed over, so the text comes from elsewhere. -/
  | fallback (skip : Skip)
  | binaryFile
  | fileTooLarge
  deriving DecidableEq, Repr

def Reason.text : Reason → String
  | skipped skip => skip.text
  | fallback skip => "fallback_from_" ++ skip.text
  | binaryFile => "binary_file"
  | fileTooLarge => "file_too_large"

/-- Which source won, and why. -/
structure Resolution where
  kind : RefKind
  available : Bool
  refName : Option String := none
  commit : Option String := none
  reason : Option Reason := none
  deriving DecidableEq, Repr

/-- A baseline. It is empty when there is nothing to compare: the text on disk is the current one, or
no source was left. -/
structure Resolved where
  text : Text.Given
  resolution : Resolution
  isEmpty : Bool := false
  deriving DecidableEq, Repr

end EditImpact.Baseline
