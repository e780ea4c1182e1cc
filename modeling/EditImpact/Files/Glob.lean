import EditImpact.Text.Blank

/-!
Globs for file names: a star stands for any characters, a question mark for one, and brackets for
one character of a set.
-/

namespace EditImpact.Glob

inductive SetItem where
  | one (c : Char)
  | range (low high : Char)
  deriving DecidableEq, Repr

def SetItem.contains : SetItem → Char → Bool
  | .one c, x => x == c
  | .range low high, x => low ≤ x && x ≤ high

inductive Item where
  | star
  | any
  | set (negated : Bool) (items : List SetItem)
  | char (c : Char)
  deriving DecidableEq, Repr

/-- The members between brackets; a range that runs backwards is empty. -/
def setItems : List Char → List SetItem
  | low :: '-' :: high :: rest =>
    if low ≤ high then .range low high :: setItems rest else setItems rest
  | c :: rest => .one c :: setItems rest
  | [] => []

/-- The text between brackets and what follows; a bracket at the very start belongs to the text. -/
def untilBracket : List Char → Option (List Char × List Char)
  | [] => none
  | ']' :: rest => some ([], rest)
  | c :: rest => (untilBracket rest).map fun (inside, after) => (c :: inside, after)

def bracketed (text : List Char) : Option (Bool × List Char × List Char) :=
  let (negated, body) :=
    match text with
    | '!' :: rest => (true, rest)
    | _ => (false, text)
  match body with
  | ']' :: rest => (untilBracket rest).map fun (inside, after) => (negated, ']' :: inside, after)
  | _ => (untilBracket body).map fun (inside, after) => (negated, inside, after)

/-- Reads a glob; the first argument bounds its length. A bracket that does not close is itself. -/
def parseFrom : Nat → List Char → List Item
  | 0, _ => []
  | _, [] => []
  | fuel + 1, '*' :: rest => .star :: parseFrom fuel rest
  | fuel + 1, '?' :: rest => .any :: parseFrom fuel rest
  | fuel + 1, '[' :: rest =>
    match bracketed rest with
    | some (negated, inside, after) => .set negated (setItems inside) :: parseFrom fuel after
    | none => .char '[' :: parseFrom fuel rest
  | fuel + 1, c :: rest => .char c :: parseFrom fuel rest

def parse (glob : List Char) : List Item := parseFrom glob.length glob

/-- Whether a test holds of some rest of a text. -/
def anyRest (test : List Char → Bool) : List Char → Bool
  | [] => test []
  | c :: rest => test (c :: rest) || anyRest test rest

def matchesItems : List Item → List Char → Bool
  | [], text => text.isEmpty
  | .star :: items, text => anyRest (matchesItems items) text
  | .any :: items, text =>
    match text with
    | _ :: rest => matchesItems items rest
    | [] => false
  | .set negated set :: items, text =>
    match text with
    | c :: rest => (set.any (·.contains c) != negated) && matchesItems items rest
    | [] => false
  | .char wanted :: items, text =>
    match text with
    | c :: rest => c == wanted && matchesItems items rest
    | [] => false

/-- Whether a glob covers the whole of a name. -/
def covers (glob name : String) : Bool := matchesItems (parse glob.toList) name.toList

def anyCovers (globs : List String) (name : String) : Bool := globs.any (covers · name)

end EditImpact.Glob
