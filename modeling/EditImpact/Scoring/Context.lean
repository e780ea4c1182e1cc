import EditImpact.Language
import EditImpact.LineDelta
import EditImpact.Pattern.Search

/-!
One edit as the scoring rules see it: the new text, which of its lines changed, the old text, and
what other tools said about the file.
-/

namespace EditImpact.Scoring

inductive Severity where
  | error
  | warning
  | info
  | hint
  deriving DecidableEq, Repr

def Severity.ofName? : String → Option Severity
  | "error" => some .error
  | "warning" => some .warning
  | "info" => some .info
  | "hint" => some .hint
  | _ => none

/-- A finding of another tool about a range of lines, ends included. -/
structure Diagnostic where
  line : Int
  message : String
  severity : Severity := .warning
  endLine : Option Int := none
  deriving DecidableEq, Repr

/-- Whether the diagnostic covers one of the lines. -/
def Diagnostic.touches (diagnostic : Diagnostic) (lines : List Int) : Bool :=
  lines.any fun n => diagnostic.line ≤ n && n ≤ diagnostic.endLine.getD diagnostic.line

structure Context where
  path : String
  current : List Char
  delta : LineDelta := {}
  prior : Option (List Char) := none
  diagnostics : List Diagnostic := []
  language : Option Language := none
  nearbyTests : List String := []
  isTestFile : Bool := false

namespace Context

/-- The lines of the new text; only newlines end a line. -/
def lines (context : Context) : List (List Char) := Text.newlineLines context.current

def changedLines (context : Context) : List Int := context.delta.changed

/-- The changed lines that the text has, with their numbers. -/
def changedPairs (context : Context) : List (Int × List Char) :=
  let lines := context.lines.toArray
  context.changedLines.filterMap fun n =>
    if 0 < n then lines[(n - 1).toNat]?.map fun text => (n, text) else none

/-- The changed lines joined by newlines. -/
def changedCode (context : Context) : List Char :=
  Text.joinWith ['\n'] (context.changedPairs.map (·.2))

/-- The diagnostics that cover a changed line. -/
def relevantDiagnostics (context : Context) : List Diagnostic :=
  context.diagnostics.filter (·.touches context.changedLines)

def firstChangedLine (context : Context) : Option Int := context.changedLines.head?

/-- The numbers of the changed lines on which the pattern occurs. -/
def linesMatching (context : Context) (pattern : Pattern) : List Int :=
  (context.changedPairs.filter fun pair => pattern.occurs pair.2).map (·.1)

/-- The items from `first` up to `last`, where a negative `last` counts from the back. -/
def slice {Item : Type} (first : Nat) (last : Int) (items : List Item) : List Item :=
  let stop := if last < 0 then (items.length + last).toNat else last.toNat
  (items.take stop).drop first

/-- Up to `size` lines before a line, joined by newlines. -/
def windowBefore (context : Context) (line : Int) (size : Int) : List Char :=
  Text.joinWith ['\n'] (slice (line - 1 - size).toNat (line - 1) context.lines)

end Context

end EditImpact.Scoring
