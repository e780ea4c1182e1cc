import EditImpact.Files.Kind
import EditImpact.Files.System

/-!
Walking through directories: the files of a directory come before those of its subdirectories, and
subdirectories are taken in name order. A walk may have a deadline and then keeps what it found.
-/

namespace EditImpact.Files

/-- The readings of a clock that are still to come. -/
structure Clock where
  reading : Nat → Float

/-- The clock after some readings. -/
def Clock.skip (clock : Clock) (count : Nat) : Clock := ⟨fun index => clock.reading (count + index)⟩

/-- A clock that starts at zero and whose readings are a fixed step apart. -/
def Clock.steady (step : Float) : Clock :=
  ⟨fun index => Nat.rec step (fun _ time => time + step) index⟩

structure Walked where
  files : List Path
  timedOut : Bool
  /-- How often the walk asked whether its time is over. -/
  checks : Nat

/-- The directories to enter, in the order they are listed. -/
def enteredDirectories (extra : List String) (entries : List Entry) : List Path :=
  (entries.filter fun entry => entry.isDirectory && !isExcluded entry.name extra).map (·.path)

def acceptedFiles (accept : Path → Bool) (entries : List Entry) : List Path :=
  (entries.filter fun entry => !entry.isDirectory && accept entry.path).map (·.path)

/-- Walks through the directories on the stack. A directory is entered once: `unseen` holds those
that were not entered yet. -/
def walkFrom (files : FileSystem) (extra : List String) (accept : Path → Bool)
    (expired : Nat → Bool) (unseen : List Path) (checks : Nat) : List Path → Walked
  | [] => ⟨[], false, checks⟩
  | directory :: stack =>
    if expired checks then ⟨[], true, checks + 1⟩
    else if seen : directory ∈ unseen then
      let entries := files.entries directory
      let later :=
        walkFrom files extra accept expired (unseen.erase directory) (checks + 1)
          (enteredDirectories extra entries ++ stack)
      { later with files := acceptedFiles accept entries ++ later.files }
    else walkFrom files extra accept expired unseen (checks + 1) stack
termination_by stack => (unseen.length, stack.length)
decreasing_by
  · have shorter := List.length_erase_of_mem seen
    have positive := List.length_pos_of_mem seen
    apply Prod.Lex.left
    omega
  · apply Prod.Lex.right
    simp

/-- What became of a walk that judges the files it meets. -/
structure Judged (Problem : Type) where
  files : Except Problem (List Path)
  timedOut : Bool
  checks : Nat

def listedFiles (entries : List Entry) : List Path :=
  (entries.filter fun entry => !entry.isDirectory).map (·.path)

/-- The files that are judged well, or the first problem with judging them. -/
def judgeFiles {Problem : Type} (judge : Path → Except Problem Bool) :
    List Path → Except Problem (List Path)
  | [] => .ok []
  | path :: paths => do
    let wanted ← judge path
    let rest ← judgeFiles judge paths
    return if wanted then path :: rest else rest

/-- Walks through the directories on the stack as `walkFrom` does, and ends at the first file that
cannot be judged. -/
def judgeFrom {Problem : Type} (files : FileSystem) (extra : List String)
    (judge : Path → Except Problem Bool) (expired : Nat → Bool) (unseen : List Path)
    (checks : Nat) : List Path → Judged Problem
  | [] => ⟨.ok [], false, checks⟩
  | directory :: stack =>
    if expired checks then ⟨.ok [], true, checks + 1⟩
    else if seen : directory ∈ unseen then
      let entries := files.entries directory
      match judgeFiles judge (listedFiles entries) with
      | .error problem => ⟨.error problem, false, checks + 1⟩
      | .ok wanted =>
        let later :=
          judgeFrom files extra judge expired (unseen.erase directory) (checks + 1)
            (enteredDirectories extra entries ++ stack)
        { later with files := later.files.map (wanted ++ ·) }
    else judgeFrom files extra judge expired unseen (checks + 1) stack
termination_by stack => (unseen.length, stack.length)
decreasing_by
  · have shorter := List.length_erase_of_mem seen
    have positive := List.length_pos_of_mem seen
    apply Prod.Lex.left
    omega
  · apply Prod.Lex.right
    simp

/-- The first of equal paths, in order. -/
def distinctPaths : List Path → List Path
  | [] => []
  | path :: paths => path :: (distinctPaths paths).filter (· != path)

structure Walk where
  files : FileSystem
  extraExcluded : List String := []
  timeout : Option Float := none

/-- Hands a walk the times at which it is over, and returns the clock after it. A walk with a timeout
reads the clock once at the start and once before each directory; `checks` counts the latter. -/
def Walk.timed {Result : Type} (walk : Walk) (clock : Clock) (checks : Result → Nat)
    (run : (Nat → Bool) → Result) : Result × Clock :=
  match walk.timeout with
  | none => (run fun _ => false, clock)
  | some timeout =>
    let deadline := clock.reading 0 + timeout
    let result := run fun check => deadline < clock.reading (check + 1)
    (result, clock.skip (checks result + 1))

/-- Walks from the roots and returns the accepted files, each once, with the clock afterwards. -/
def Walk.run (walk : Walk) (clock : Clock) (roots : List Path) (accept : Path → Bool) :
    Walked × Clock :=
  walk.timed clock (·.checks) fun expired =>
    let walked :=
      walkFrom walk.files walk.extraExcluded accept expired walk.files.directories 0 roots
    { walked with files := distinctPaths walked.files }

/-- Walks from the roots and returns the files that are judged well, each once. -/
def Walk.judge {Problem : Type} (walk : Walk) (clock : Clock) (roots : List Path)
    (judge : Path → Except Problem Bool) : Judged Problem × Clock :=
  walk.timed clock (·.checks) fun expired =>
    let walked :=
      judgeFrom walk.files walk.extraExcluded judge expired walk.files.directories 0 roots
    { walked with files := walked.files.map distinctPaths }

end EditImpact.Files
