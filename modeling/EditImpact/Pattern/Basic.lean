import EditImpact.Text.Blank
import EditImpact.Text.LetterCase
import EditImpact.Text.WordChar

/-!
Search patterns: sets of characters, sequences, ordered alternatives, greedy and lazy repetition,
word edges, line anchors and one captured part. A pattern is matched by trying its alternatives in
order and handing every way to match to a continuation, so the first way that lets the rest of the
pattern succeed wins.
-/

namespace EditImpact

/-- One entry of a character set. -/
inductive CharItem where
  | one (c : Char)
  | range (first last : Char)
  | word
  | digit
  | blank
  deriving DecidableEq, Repr

namespace CharItem

def holds : CharItem → Char → Bool
  | one x, c => x == c
  | range first last, c => first ≤ c && c ≤ last
  | word, c => Text.isWord c
  | digit, c => Text.isDigit c
  | blank, c => Text.isBlank c

/-- Membership when letter case is ignored; a range holds ASCII letters and digits. -/
def holdsFolded : CharItem → Char → Bool
  | one x, c => Text.sameLetter x c
  | range first last, c => (Text.caseVariants c).any fun v => first ≤ v && v ≤ last
  | item, c => item.holds (Text.lowerChar c)

end CharItem

/-- A set of characters, possibly the complement of its items, possibly ignoring letter case. -/
structure CharSet where
  items : List CharItem
  negated : Bool := false
  folded : Bool := false
  deriving DecidableEq, Repr

namespace CharSet

def contains (set : CharSet) (c : Char) : Bool :=
  (set.items.any fun item => if set.folded then item.holdsFolded c else item.holds c)
    != set.negated

end CharSet

inductive Pattern where
  /-- Matches without reading. -/
  | empty
  | char (set : CharSet)
  | seq (first second : Pattern)
  | alt (first second : Pattern)
  /-- At least `least` and at most `most` copies, preferring more of them iff `greedy`. -/
  | rep (greedy : Bool) (least : Nat) (most : Option Nat) (body : Pattern)
  /-- Remembers the text that `body` read. -/
  | capture (body : Pattern)
  /-- Exactly one of the two neighbouring characters is a word character. -/
  | wordEdge
  | textStart
  | lineStart
  /-- The end of the text, or before a newline that ends the text. -/
  | textEnd
  | notBefore (set : CharSet)
  | notAfter (set : CharSet)
  deriving Repr

/-- A place in a text: what was read last, what is still to be read, and the offset. -/
structure Cursor where
  last : Option Char
  rest : List Char
  offset : Nat
  deriving DecidableEq, Repr

namespace Cursor

def start (text : List Char) : Cursor := ⟨none, text, 0⟩

/-- The place after `count` more characters. -/
def advance : Nat → Cursor → Cursor
  | 0, cursor => cursor
  | _ + 1, ⟨last, [], offset⟩ => ⟨last, [], offset⟩
  | count + 1, ⟨_, c :: rest, offset⟩ => advance count ⟨some c, rest, offset + 1⟩

end Cursor

/-- Matching in progress: the place reached and the captured text. -/
structure Progress where
  cursor : Cursor
  captured : Option (List Char)
  deriving DecidableEq, Repr

namespace Pattern

/-- Repeats a matcher; an iteration that reads nothing ends the repetition. `fuel` bounds the
number of iterations and is at least the number of characters left. -/
def repeatWith {Result : Type} (greedy : Bool)
    (body : Progress → (Progress → Option Result) → Option Result) :
    Nat → Nat → Option Nat → Progress → (Progress → Option Result) → Option Result
  | 0, least, _, progress, next => if least = 0 then next progress else none
  | fuel + 1, least, most, progress, next =>
    if most = some 0 then next progress
    else
      let again := fun _ : Unit =>
        body progress fun reached =>
          if reached.cursor.offset = progress.cursor.offset then none
          else repeatWith greedy body fuel (least - 1) (most.map (· - 1)) reached next
      if 0 < least then again ()
      else if greedy then again () <|> next progress
      else next progress <|> again ()

def nextIsWord (cursor : Cursor) : Bool :=
  match cursor.rest with
  | [] => false
  | c :: _ => Text.isWord c

def lastIsWord (cursor : Cursor) : Bool :=
  match cursor.last with
  | none => false
  | some c => Text.isWord c

/-- All ways to match from `progress`, in order of preference, until `next` accepts one. -/
def run {Result : Type} : Pattern → Progress → (Progress → Option Result) → Option Result
  | empty, progress, next => next progress
  | char set, ⟨⟨_, rest, offset⟩, captured⟩, next =>
    match rest with
    | [] => none
    | c :: rest => if set.contains c then next ⟨⟨some c, rest, offset + 1⟩, captured⟩ else none
  | seq first second, progress, next => run first progress fun reached => run second reached next
  | alt first second, progress, next => run first progress next <|> run second progress next
  | rep greedy least most body, progress, next =>
    repeatWith greedy (fun reached more => run body reached more) (progress.cursor.rest.length + 1)
      least most progress next
  | capture body, progress, next =>
    run body progress fun reached =>
      next { reached with
        captured := some (progress.cursor.rest.take
          (reached.cursor.offset - progress.cursor.offset)) }
  | wordEdge, progress, next =>
    if lastIsWord progress.cursor != nextIsWord progress.cursor then next progress else none
  | textStart, progress, next => if progress.cursor.last.isNone then next progress else none
  | lineStart, progress, next =>
    if progress.cursor.last.isNone || progress.cursor.last == some '\n' then next progress else none
  | textEnd, progress, next =>
    if progress.cursor.rest.isEmpty || progress.cursor.rest == ['\n'] then next progress else none
  | notBefore set, progress, next =>
    match progress.cursor.rest with
    | [] => next progress
    | c :: _ => if set.contains c then none else next progress
  | notAfter set, progress, next =>
    match progress.cursor.last with
    | none => next progress
    | some c => if set.contains c then none else next progress

/-- The same pattern with letter case ignored. -/
def ignoringCase : Pattern → Pattern
  | char set => char { set with folded := true }
  | seq first second => seq first.ignoringCase second.ignoringCase
  | alt first second => alt first.ignoringCase second.ignoringCase
  | rep greedy least most body => rep greedy least most body.ignoringCase
  | capture body => capture body.ignoringCase
  | notBefore set => notBefore { set with folded := true }
  | notAfter set => notAfter { set with folded := true }
  | pattern => pattern

end Pattern

end EditImpact
