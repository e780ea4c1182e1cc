import EditImpact.Text.Blank

/-!
Reading a text outside its brackets and string literals. All readers here share one state: how deep
in brackets the place is, which quote is open, and the character before it.
-/

namespace EditImpact.Source

def isQuote (c : Char) : Bool := c == '\'' || c == '"' || c == '`'

def isOpener (c : Char) : Bool := c == '(' || c == '[' || c == '\x7b' || c == '<'

/-- Closing brackets. An angle closes unless it is the head of an arrow or the first character. -/
def closes (last : Option Char) (c : Char) : Bool :=
  c == ')' || c == ']' || c == '\x7d' ||
    (c == '>' && last.any fun before => before != '=' && before != '-')

/-- A place in a text that is read from left to right. -/
structure Place where
  depth : Nat
  quote : Option Char
  last : Option Char
  deriving DecidableEq, Repr

namespace Place

def start : Place := ⟨0, none, none⟩

/-- Outside every bracket and string. -/
def isTop (place : Place) : Bool := place.depth == 0 && place.quote.isNone

/-- The open quote after `c`: an open one is closed by itself unless a backslash stands before. -/
def quoteAfter (place : Place) (c : Char) : Option Char :=
  match place.quote with
  | some quote => if c == quote && place.last != some '\\' then none else some quote
  | none => if isQuote c then some c else none

def next (place : Place) (c : Char) : Place where
  depth :=
    if place.quote.isSome || isQuote c then place.depth
    else if isOpener c then place.depth + 1
    else if closes place.last c then place.depth - 1
    else place.depth
  quote := place.quoteAfter c
  last := some c

end Place

/-- What to look for: a test of a character between the one before it and those after it. -/
abbrev Wanted := Option Char → Char → List Char → Bool

/-- The first place outside brackets and strings that is wanted; quotes themselves never are. -/
def findFrom (wanted : Wanted) : Place → List Char → Option Nat
  | _, [] => none
  | place, c :: rest =>
    if place.isTop && !isQuote c && wanted place.last c rest then some 0
    else (findFrom wanted (place.next c) rest).map (· + 1)

def findTop (wanted : Wanted) (text : List Char) : Option Nat := findFrom wanted .start text

/-- The text up to the wanted place, or all of it. -/
def takeTop (wanted : Wanted) (text : List Char) : List Char :=
  match findTop wanted text with
  | some index => text.take index
  | none => text

/-- A single equals sign with a character on both sides that is no comparison or arrow. -/
def isAssign : Wanted := fun last c rest =>
  c == '=' && (rest.head?.any fun after => after != '=' && after != '>') &&
    (last.any fun before => before != '=' && before != '!' && before != '<' && before != '>')

/-- A colon that is not the first of two. -/
def isColon : Wanted := fun _ c rest => c == ':' && rest.head? != some ':'

def isAnyOf (chars : List Char) : Wanted := fun _ c _ => chars.contains c

/-- The pieces between separators outside brackets and strings, untrimmed. A bracket that separates
opens and closes nothing. -/
def cutFrom (separator : Char) : Place → List Char → List (List Char)
  | _, [] => [[]]
  | place, c :: rest =>
    if place.isTop && !isQuote c && c == separator then
      [] :: cutFrom separator { place with last := some c } rest
    else
      match cutFrom separator (place.next c) rest with
      | [] => [[c]]
      | piece :: pieces => (c :: piece) :: pieces

/-- The trimmed pieces between separators outside brackets and strings, without blank ones. -/
def splitTop (separator : Char) (text : List Char) : List (List Char) :=
  ((cutFrom separator .start text).map Text.trim).filter (!·.isEmpty)

/-- Reads up to the parenthesis that brings `depth` back to zero. -/
def balancedFrom : Int → Option Char → Option Char → List Char → Option Nat
  | _, _, _, [] => none
  | depth, quote, last, c :: rest =>
    let further := fun depth quote => (balancedFrom depth quote (some c) rest).map (· + 1)
    match quote with
    | some open' =>
      further depth (if c == open' && last != some '\\' then none else some open')
    | none =>
      if isQuote c then further depth (some c)
      else if c == '(' then further (depth + 1) none
      else if c == ')' then if depth == 1 then some 0 else further (depth - 1) none
      else further depth none

/-- The offset of the parenthesis that closes the one at offset `index`. -/
def closingParen (text : List Char) (index : Nat) : Option Nat :=
  (balancedFrom 0 none none (text.drop index)).map (· + index)

end EditImpact.Source
