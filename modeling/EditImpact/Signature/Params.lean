import EditImpact.Source.Mask
import EditImpact.Source.Collapse
import EditImpact.Source.TopLevel

/-!
Parameter lists and types in a canonical form that does not depend on parameter names: what remains
of a parameter is its type, whether it is optional, has a default value or collects the rest.
-/

namespace EditImpact.Signature

open Source

/-- How a language writes one parameter. -/
inductive ParamStyle where
  /-- A name, then a colon and the type. -/
  | colon
  | typeFirst
  | nameFirst
  deriving DecidableEq, Repr

def ParamStyle.of : Option Language → ParamStyle
  | some .java => .typeFirst
  | some .csharp => .typeFirst
  | some .go => .nameFirst
  | _ => .colon

def accessWords : List String := ["public", "private", "protected", "readonly", "override"]

/-- The text after a leading access word and the blanks behind it. -/
def afterAccessWord? (text : List Char) : Option (List Char) :=
  accessWords.findSome? fun word =>
    match Text.afterStart? word.toList text with
    | some (c :: rest) => if Text.isBlank c then some (Text.trimStart rest) else none
    | _ => none

/-- Drops up to `count` leading access words. -/
def dropAccessWords : Nat → List Char → List Char
  | 0, text => text
  | count + 1, text =>
    match afterAccessWord? text with
    | some rest => dropAccessWords count rest
    | none => text

/-- A marker in front of a parameter that collects arguments, and the text after it. -/
def splitMarker (text : List Char) : List Char × List Char :=
  match Text.afterStart? "...".toList text with
  | some rest => ("...".toList, Text.trimStart rest)
  | none =>
    match Text.afterStart? "**".toList text with
    | some rest => ("**".toList, Text.trimStart rest)
    | none =>
      match Text.afterStart? "*".toList text with
      | some rest => ("*".toList, Text.trimStart rest)
      | none => ([], text)

/-- The text before the first wanted place, and the text after it if there is one. -/
def cutTop (wanted : Wanted) (text : List Char) : List Char × Option (List Char) :=
  match findTop wanted text with
  | some index => (text.take index, some (text.drop (index + 1)))
  | none => (text, none)

def dropTrailing (c : Char) (text : List Char) : List Char :=
  (text.reverse.dropWhile (· == c)).reverse

/-- The receiver forms that stand for themselves. -/
def receivers : List String := ["self", "&self", "&mut self", "mut self"]

def normalizeColon (language : Option Language) (param : List Char) : List Char :=
  let trimmed := Text.trim param
  let collapsed := collapse trimmed
  if language == some .rust && receivers.any (·.toList == collapsed) then collapsed
  else if trimmed == ['*'] || trimmed == ['/'] then trimmed
  else
    let (marker, named) := splitMarker trimmed
    let (bare, fallback) := cutTop isAssign (dropAccessWords named.length named)
    let (namePart, typePart) := cutTop isColon bare
    let trimmedName := Text.trim namePart
    let plainName := Text.trim (dropTrailing '?' trimmedName)
    let typeText := (typePart.map Text.trim).getD []
    let shown :=
      if !typeText.isEmpty then collapse typeText
      else if plainName.head? == some '\x7b' || plainName.head? == some '[' then collapse plainName
      else ['_']
    marker ++ shown ++ (if trimmedName.getLast? == some '?' then ['?'] else []) ++
      (if fallback.isSome then ['='] else [])

def normalizeTypeFirst (param : List Char) : List Char :=
  let (bare, fallback) := cutTop isAssign (Text.trim param)
  let words := (blankWords bare).filter fun word => word.head? != some '@' && word != "final".toList
  let kept := if 2 ≤ words.length then words.dropLast else words
  collapse (Text.joinWith [' '] kept) ++ (if fallback.isSome then ['='] else [])

def normalizeNameFirst (param : List Char) : List Char :=
  let words := blankWords param
  collapse (Text.joinWith [' '] (if 2 ≤ words.length then words.tail else words))

def normalizeParam (language : Option Language) (param : List Char) : List Char :=
  match ParamStyle.of language with
  | .colon => normalizeColon language param
  | .typeFirst => normalizeTypeFirst param
  | .nameFirst => normalizeNameFirst param

/-- A list without the parentheses around it. -/
def withoutParens (text : List Char) : List Char :=
  if text.head? == some '(' && text.getLast? == some ')' then text.tail.dropLast else text

/-- The canonical form of a parameter list, with or without parentheses. -/
def normalizeParams (language : Option Language) (raw : List Char) : List Char :=
  let text := withoutParens (Text.trim (stripComments language raw))
  Text.joinWith [','] ((splitTop ',' text).map (normalizeParam language))

/-- A parameter list for readers: names stay, comments and needless blanks go. -/
def displayParams (language : Option Language) (raw : List Char) : List Char :=
  let text := collapse (stripComments language raw)
  if text.head? == some '(' then text else '(' :: text ++ [')']

/-- The text after `start` and blanks, or the text itself. -/
def dropLead (start text : List Char) : List Char :=
  match Text.afterStart? start text with
  | some rest => Text.trim rest
  | none => text

/-- The canonical form of a type, without the arrow or colon in front of it. -/
def normalizeType (language : Option Language) (raw : List Char) : List Char :=
  dropLead [':'] (dropLead ['-', '>'] (collapse (stripComments language raw)))

/-- A signature from canonical parameters and a canonical return type, which may be empty. -/
def build (params returned : List Char) : List Char :=
  '(' :: params ++ [')'] ++ (if returned.isEmpty then [] else ':' :: returned)

end EditImpact.Signature
