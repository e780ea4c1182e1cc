import EditImpact.Decimal.Shortest
import EditImpact.Value.Basic

/-!
Checking data against what can be set. Every field of a section is checked; the first one that is
wrong counts, and is told with its path and the value that was found there. What a single value is
taken for is up to the conversions at hand.
-/

namespace EditImpact.Settings

structure Problem where
  path : List String := []
  reason : String
  value : Value

def Problem.field (problem : Problem) : String := ".".intercalate problem.path

/-- What comes of a check. -/
inductive Checked (Item : Type) where
  | accepted (item : Item)
  | refused (problem : Problem)
  /-- A path starts at the home of a user who has none that is known. -/
  | homeless

def refuse {Item : Type} (value : Value) (reason : String) : Checked Item :=
  .refused { reason := reason, value := value }

namespace Checked

variable {Item Next : Type}

/-- A further check of what was accepted. -/
def andThen (checked : Checked Item) (next : Item → Checked Next) : Checked Next :=
  match checked with
  | accepted item => next item
  | refused problem => refused problem
  | homeless => homeless

/-- Two checks that are both made. An unknown home counts before any problem, and then the problem of
the first check. -/
def apply (first : Checked (Item → Next)) (second : Checked Item) : Checked Next :=
  match first, second with
  | homeless, _ => homeless
  | _, homeless => homeless
  | refused problem, _ => refused problem
  | _, refused problem => refused problem
  | accepted f, accepted item => accepted (f item)

instance : Applicative Checked where
  pure := accepted
  seq first second := first.apply (second ())

/-- Whatever is wrong is wrong below a key. -/
def below (key : String) : Checked Item → Checked Item
  | refused problem => refused { problem with path := key :: problem.path }
  | checked => checked

end Checked

/-- What single values are taken for, and where users are at home. -/
structure Conversions where
  text : Value → Checked String
  flag : Value → Checked Bool
  number : Value → Checked Float
  /-- One of a few names, told by its place among them. -/
  choice (names : List String) : Value → Checked (Fin names.length)
  items : Value → Checked (List Value)
  /-- The fields of a section, which has a title of its own. -/
  fields (title : String) : Value → Checked (List (String × Value))
  /-- What stands for a tilde, or for a tilde and the name of a user. -/
  home : String → String

/-- A field of a section, or what holds if it is not given. -/
def field {Item : Type} (fields : List (String × Value)) (key : String) (default : Item)
    (check : Value → Checked Item) : Checked Item :=
  match Value.find? key fields with
  | none => .accepted default
  | some value => (check value).below key

def itemsFrom {Item : Type} (check : Value → Checked Item) : Nat → List Value → Checked (List Item)
  | _, [] => .accepted []
  | index, value :: values =>
    List.cons <$> (check value).below (toString index) <*> itemsFrom check (index + 1) values

namespace Conversions

variable (convert : Conversions)

/-- A list of which every item is checked. -/
def list {Item : Type} (check : Value → Checked Item) (value : Value) : Checked (List Item) :=
  (convert.items value).andThen (itemsFrom check 0)

def texts : Value → Checked (List String) := convert.list convert.text

/-- One of a few things, given by name. -/
def oneOf {Item : Type} (items : List Item) (name : Item → String) (value : Value) :
    Checked Item :=
  (fun index => items.get (index.cast (List.length_map name))) <$>
    convert.choice (items.map name) value

/-- A section, of which the fields are checked. -/
def group {Item : Type} (title : String) (check : List (String × Value) → Checked Item)
    (value : Value) : Checked Item :=
  (convert.fields title value).andThen check

def positive (value : Value) : Checked Float :=
  (convert.number value).andThen fun x =>
    if x ≤ 0 then refuse value ("Value error, Must be positive, got " ++ Decimal.ofFloat x)
    else .accepted x

end Conversions

end EditImpact.Settings
