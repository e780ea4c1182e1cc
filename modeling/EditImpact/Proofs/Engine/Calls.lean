import EditImpact.Inventory.Collect
import EditImpact.Lines.Shortest
import EditImpact.Proofs.Engine.Analyses

/-!
# Calls to an engine

An engine is used through five calls, and between two of them files and version control may change
in any way, so each call comes with what it finds. A run keeps every call together with the engine
that it was made to and with its answer.
-/

namespace EditImpact.Engine

open Baseline

set_option autoImplicit false

/-- The tools of an engine that has no grammar: its inventories are taken from headers alone. -/
def plainTools : Tools where
  collect := Inventory.collectWith fun _ => none
  patch := Lines.shortestPatch

/-- The text of an update: what is given, else what is on disk. -/
def Supplied (files : Files.FileSystem) (file : Path) (given : Option Text.Given)
    (text : Text.Given) : Prop :=
  given = some text ∨
    given = none ∧ ∃ content, files.read file = .ok content ∧ text = Text.given content

section Updates

variable {engine : Engine} {files : Files.FileSystem} {path file : Path}

theorem update_baseline_lost {failure : Failure}
    (lost : engine.absolute files path = .error failure) (given : Option Text.Given) :
    engine.updateBaseline files path given = .error failure := by
  rw [updateBaseline, lost]
  rfl

/-- An update of a file that is found makes a text its snapshot, unless there is none. -/
theorem update_baseline_cases (found : engine.absolute files path = .ok file)
    (given : Option Text.Given) :
    engine.updateBaseline files path given = .ok (false, engine) ∧
        (∀ text, ¬Supplied files file given text) ∨
      ∃ text, (∀ other, Supplied files file given other ↔ other = text) ∧
        engine.updateBaseline files path given = .ok (true, engine.updated file.toString text) := by
  rw [updateBaseline, found]
  cases given with
  | some text => exact .inr ⟨text, by simp [Supplied, eq_comm], rfl⟩
  | none =>
      cases read : files.read file with
      | error problem =>
          refine .inl ⟨?_, by simp [Supplied, read]⟩
          simp only [bind, Except.bind, read]
          rfl
      | ok text =>
          refine .inr ⟨Text.given text, by simp [Supplied, read], ?_⟩
          simp only [bind, Except.bind, read]
          rfl

theorem initialize_baseline_lost {failure : Failure}
    (lost : engine.absolute files path = .error failure) :
    engine.initializeBaseline files path = .error failure := by
  rw [initializeBaseline, lost]
  rfl

theorem initialize_baseline_found (found : engine.absolute files path = .ok file) :
    engine.initializeBaseline files path =
      if engine.caches.snapshots.contains file.toString then .ok (false, engine)
      else engine.updateBaseline files path none := by
  rw [initializeBaseline, found]
  rfl

theorem clear_baseline_lost {failure : Failure}
    (lost : engine.absolute files path = .error failure) :
    engine.clearBaseline files path = .error failure := by
  rw [clearBaseline, lost]
  rfl

/-- An engine that forgot a file. -/
def cleared (engine : Engine) (file : String) : Engine :=
  { engine with caches :=
    { snapshots := engine.caches.snapshots.discard file
      refs := engine.caches.refs.discardPath file } }

theorem clear_baseline_found (found : engine.absolute files path = .ok file) :
    engine.clearBaseline files path = .ok (engine.cleared file.toString) := by
  rw [clearBaseline, found]
  rfl

end Updates

/-- A call, with files and version control as they are while it lasts. -/
inductive Call where
  | analyze (around : Surroundings) (clock : Files.Clock) (edit : Edit)
  | update (files : Files.FileSystem) (path : Path) (text : Option Text.Given)
  | seed (files : Files.FileSystem) (path : Path)
  | clear (files : Files.FileSystem) (path : Path)
  | clearAll

inductive Answer (Weight : Type) where
  | analysis (outcome : Except Failure (Analysis Weight))
  | said (outcome : Except Failure Bool)
  | done (outcome : Except Failure Unit)

/-- A call, the engine as it was by then, and what it answered. -/
structure Event (Weight : Type) where
  engine : Engine
  call : Call
  answer : Answer Weight

/-- What a call answers and leaves that may fail: a failure leaves the engine as it was. -/
def settle {Weight Item : Type} (engine : Engine) (answer : Except Failure Item → Answer Weight) :
    Except Failure (Item × Engine) → Answer Weight × Engine
  | .ok (item, next) => (answer (.ok item), next)
  | .error failure => (answer (.error failure), engine)

section Running

variable (Weight : Type) [Scoring.Weighing Weight]

def perform (engine : Engine) : Call → Answer Weight × Engine
  | .analyze around clock edit =>
    let reply := engine.analyze around clock edit
    (.analysis reply.answer, reply.engine)
  | .update files path text => engine.settle .said (engine.updateBaseline files path text)
  | .seed files path => engine.settle .said (engine.initializeBaseline files path)
  | .clear files path => engine.settle .done ((engine.clearBaseline files path).map ((), ·))
  | .clearAll => (.done (.ok ()), engine.clearAllBaselines)

/-- The events of a run, and the engine that it leaves. -/
def run (engine : Engine) : List Call → List (Event Weight) × Engine
  | [] => ([], engine)
  | call :: rest =>
    let (answer, next) := perform Weight engine call
    let (events, last) := run next rest
    (⟨engine, call, answer⟩ :: events, last)

/-- Something holds of every call of a run, made to the engine as it is by then. -/
def Along (holds : Engine → Call → Prop) (engine : Engine) : List Call → Prop
  | [] => True
  | call :: rest => holds engine call ∧ Along holds (perform Weight engine call).2 rest

section Performing

variable (engine : Engine) {files : Files.FileSystem} {path file : Path} {failure : Failure}

theorem perform_update_lost (lost : engine.absolute files path = .error failure)
    (given : Option Text.Given) :
    perform Weight engine (.update files path given) = (.said (.error failure), engine) := by
  rw [perform, update_baseline_lost lost, settle]

/-- An update either finds no text, or makes the text that it finds the snapshot of the file. -/
theorem perform_update_cases (found : engine.absolute files path = .ok file)
    (given : Option Text.Given) :
    perform Weight engine (.update files path given) = (.said (.ok false), engine) ∧
        (∀ text, ¬Supplied files file given text) ∨
      ∃ text, (∀ other, Supplied files file given other ↔ other = text) ∧
        perform Weight engine (.update files path given) =
          (.said (.ok true), engine.updated file.toString text) := by
  rcases update_baseline_cases found given with ⟨none, never⟩ | ⟨text, source, updated⟩
  · refine .inl ⟨?_, never⟩
    rw [perform, none, settle]
  · refine .inr ⟨text, source, ?_⟩
    rw [perform, updated, settle]

theorem perform_seed_lost (lost : engine.absolute files path = .error failure) :
    perform Weight engine (.seed files path) = (.said (.error failure), engine) := by
  rw [perform, initialize_baseline_lost lost, settle]

/-- A file that has a snapshot is not seeded; one that has none is updated from disk. -/
theorem perform_seed_found (found : engine.absolute files path = .ok file) :
    perform Weight engine (.seed files path) =
      if engine.caches.snapshots.contains file.toString then (.said (.ok false), engine)
      else perform Weight engine (.update files path none) := by
  show engine.settle .said (engine.initializeBaseline files path) = _
  rw [initialize_baseline_found found]
  split <;> rfl

theorem perform_clear_lost (lost : engine.absolute files path = .error failure) :
    perform Weight engine (.clear files path) = (.done (.error failure), engine) := by
  rw [perform, clear_baseline_lost lost]
  rfl

theorem perform_clear_found (found : engine.absolute files path = .ok file) :
    perform Weight engine (.clear files path) = (.done (.ok ()), engine.cleared file.toString) := by
  rw [perform, clear_baseline_found found]
  rfl

end Performing

/-- A call changes nothing but what is remembered. -/
theorem perform_engine (engine : Engine) (call : Call) :
    (perform Weight engine call).2 =
      { engine with caches := (perform Weight engine call).2.caches } := by
  have updates (files : Files.FileSystem) (path : Path) (given : Option Text.Given) :
      (perform Weight engine (.update files path given)).2 =
        { engine with caches := (perform Weight engine (.update files path given)).2.caches } := by
    cases found : engine.absolute files path with
    | error failure => rw [perform_update_lost Weight engine found]
    | ok file =>
        rcases perform_update_cases Weight engine found given with ⟨same, -⟩ | ⟨text, -, same⟩
        · rw [same]
        · rw [same]
          rfl
  cases call with
  | analyze around clock edit => exact analyze_engine rfl
  | update files path text => exact updates files path text
  | seed files path =>
      cases found : engine.absolute files path with
      | error failure => rw [perform_seed_lost Weight engine found]
      | ok file =>
          rw [perform_seed_found Weight engine found]
          split
          · rfl
          · exact updates files path none
  | clear files path =>
      cases found : engine.absolute files path with
      | error failure => rw [perform_clear_lost Weight engine found]
      | ok file =>
          rw [perform_clear_found Weight engine found]
          rfl
  | clearAll => rfl

theorem run_cons (engine : Engine) (call : Call) (rest : List Call) :
    run Weight engine (call :: rest) =
      (⟨engine, call, (perform Weight engine call).1⟩ ::
          (run Weight (perform Weight engine call).2 rest).1,
        (run Weight (perform Weight engine call).2 rest).2) := rfl

theorem run_engine (engine : Engine) (calls : List Call) :
    (run Weight engine calls).2 = { engine with caches := (run Weight engine calls).2.caches } := by
  induction calls generalizing engine with
  | nil => rfl
  | cons call rest ih =>
      rw [run_cons, ih, perform_engine]

end Running

end EditImpact.Engine
