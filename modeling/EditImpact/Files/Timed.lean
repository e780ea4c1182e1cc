import EditImpact.Failure
import EditImpact.Files.Walk

/-!
Computations that take walks. They read a clock, and what they come to may be a failure.
-/

namespace EditImpact.Files

/-- Where a path leads, which nobody expects to be unknown. -/
def FileSystem.real (files : FileSystem) (path : Path) : Except Failure Path :=
  (files.resolve path).mapError .unresolvable

def FileSystem.reals (files : FileSystem) (paths : List Path) : Except Failure (List Path) :=
  paths.mapM files.real

/-- What a computation came to: its answer, whether a walk ran out of time, and the clock
afterwards. -/
@[ext]
structure Lapse (Item : Type) where
  answer : Except Failure Item
  stopped : Bool
  clock : Clock

structure Timed (Item : Type) where
  run : Clock → Lapse Item

namespace Timed

variable {Item Other : Type}

protected def pure (item : Item) : Timed Item := ⟨fun clock => ⟨.ok item, false, clock⟩⟩

/-- Goes on with an answer; a failure is the end. -/
protected def bind (timed : Timed Item) (next : Item → Timed Other) : Timed Other where
  run clock :=
    let first := timed.run clock
    match first.answer with
    | .error failure => ⟨.error failure, first.stopped, first.clock⟩
    | .ok item =>
      let second := (next item).run first.clock
      { second with stopped := first.stopped || second.stopped }

instance : Monad Timed where
  pure := Timed.pure
  bind := Timed.bind

/-- An answer that takes no time. -/
def told (answer : Except Failure Item) : Timed Item := ⟨fun clock => ⟨answer, false, clock⟩⟩

instance : MonadLift (Except Failure) Timed := ⟨told⟩

/-- Walks from the roots. -/
def walking (walk : Walk) (roots : List Path) (judge : Path → Except Failure Bool) :
    Timed Walked where
  run clock :=
    let (judged, clock) := walk.judge clock roots judge
    ⟨judged.files.map fun files => ⟨files, judged.timedOut, judged.checks⟩, judged.timedOut, clock⟩

end Timed

end EditImpact.Files
