import EditImpact.Baseline.Basic
import EditImpact.Files.Path

/-!
What is remembered between analyses: the last text seen of each file, and baselines read from
version control as long as the head stays where it was.
-/

namespace EditImpact.Baseline

/-- Values by key, each key once. -/
structure Store (Key Item : Type) where
  entries : List (Key × Item) := []
  deriving DecidableEq, Repr

namespace Store

variable {Key Item : Type} [DecidableEq Key]

def empty : Store Key Item := {}

def get? (store : Store Key Item) (key : Key) : Option Item :=
  (store.entries.find? fun entry => entry.1 == key).map (·.2)

def discard (store : Store Key Item) (key : Key) : Store Key Item :=
  ⟨store.entries.filter fun entry => entry.1 != key⟩

def put (store : Store Key Item) (key : Key) (item : Item) : Store Key Item :=
  ⟨(store.discard key).entries ++ [(key, item)]⟩

/-- Keeps the entries whose key passes a test. -/
def keep (store : Store Key Item) (test : Key → Bool) : Store Key Item :=
  ⟨store.entries.filter fun entry => test entry.1⟩

def contains (store : Store Key Item) (key : Key) : Bool := (store.get? key).isSome

def size (store : Store Key Item) : Nat := store.entries.length

end Store

/-- The last text of each file, by path. -/
abbrev Snapshots := Store String Text.Given

/-- What a versioned baseline depends on besides the head. -/
structure RefKey where
  root : Option Path
  path : String
  mode : String
  target : String
  deriving DecidableEq, Repr

/-- A baseline that holds as long as the head is the given commit. -/
structure RefEntry where
  head : String
  baseline : Resolved
  deriving DecidableEq, Repr

abbrev RefCache := Store RefKey RefEntry

namespace RefCache

/-- The baseline for a key if the head is still the one it was stored with; otherwise the entry is
dropped. -/
def lookup (refs : RefCache) (key : RefKey) (head : Option String) : Option Resolved × RefCache :=
  match Store.get? refs key with
  | none => (none, refs)
  | some entry =>
    if head = some entry.head then (some entry.baseline, refs) else (none, Store.discard refs key)

def store (refs : RefCache) (key : RefKey) (head : String) (baseline : Resolved) : RefCache :=
  Store.put refs key ⟨head, baseline⟩

def discardPath (refs : RefCache) (path : String) : RefCache := Store.keep refs (·.path != path)

end RefCache

structure Caches where
  snapshots : Snapshots := {}
  refs : RefCache := {}
  deriving DecidableEq, Repr

end EditImpact.Baseline
