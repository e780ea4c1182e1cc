import EditImpact.Pattern.Search
import EditImpact.Signature.Header
import EditImpact.Signature.Params

/-!
Signatures read from a whole source text by name. Headers are looked for in the masked text, so
comments and strings never hold one; parameters and types are read from the text without comments,
so types that are literals stay.
-/

namespace EditImpact.Signature

open Source

/-- Whether the characters at a place are the head of a function arrow. -/
def isArrow : Wanted := fun _ c rest => c == '=' && rest.head? == some '>'

/-- What the text after the parameters says: the return type, and whether a function arrow
follows. -/
structure Tail where
  returned : List Char
  arrow : Bool
  deriving DecidableEq, Repr

/-- The part of a text before ` where `. -/
def beforeWhere (text : List Char) : List Char :=
  match Text.indexOf " where ".toList text with
  | some index => text.take index
  | none => text

/-- Reads what follows the closing parenthesis of the parameters. -/
def readTail (kind : HeaderKind) (after : List Char) : Tail :=
  let text := Text.trimStart after
  match kind with
  | .arrowThenColon =>
    if Text.startsWith ['-', '>'] text then ⟨(takeTop (isAnyOf [':']) text).drop 2, false⟩
    else ⟨[], false⟩
  | .beforeBody =>
    let body := Text.trim (beforeWhere (takeTop (isAnyOf ['\x7b', ';']) text))
    ⟨(Text.afterStart? ['-', '>'] body).getD body, false⟩
  | _ =>
    match text with
    | ':' :: body =>
      let stop : Wanted := fun last c rest =>
        isAnyOf ['\x7b', ';', '\n'] last c rest || isArrow last c rest
      let returned := takeTop stop body
      ⟨returned, Text.startsWith ['=', '>'] (body.drop returned.length)⟩
    | _ => ⟨[], Text.startsWith ['=', '>'] text⟩

/-- The signature that a matched header introduces, unless it turns out to be none. -/
def atHeader (language : Option Language) (code : List Char) (kind : HeaderKind) (header : Match) :
    Option (List Char) :=
  if kind == .beforeName && notTypes.any (·.toList == header.part) then none
  else
    let openAt := header.stop - 1
    match closingParen code openAt with
    | none => none
    | some closeAt =>
      let params := (code.drop openAt).take (closeAt + 1 - openAt)
      let tail := readTail kind (code.drop (closeAt + 1))
      if kind == .boundValue && !Text.occursIn "function".toList header.text && !tail.arrow then none
      else
        let returned := if kind == .beforeName then header.part else tail.returned
        some (build (normalizeParams language params) (normalizeType language returned))

/-- Languages in which a name may be bound to a bare arrow function. -/
def hasBareArrows : Option Language → Bool
  | none => true
  | some .typescript => true
  | some .tsx => true
  | some .javascript => true
  | _ => false

/-- The signature of the first function called `name`. -/
def ofFunction (language : Option Language) (name text : List Char) : Option (List Char) :=
  let code := stripComments language text
  let masked := mask language true text
  let found := (functionHeaders language name).findSome? fun header =>
    (header.pattern.findAll masked).findSome? (atHeader language code header.kind)
  match found with
  | some signature => some signature
  | none =>
    if hasBareArrows language then
      ((bareArrow name).search masked).map fun header =>
        build (normalizeParams language header.part) []
    else none

/-- The place where the heritage clause of a class ends. -/
def heritageStop (language : Option Language) : Wanted :=
  isAnyOf [if language == some .python then ':' else '\x7b', ';']

/-- The contract of the first class called `name`: its heritage clause and its constructor. -/
def ofClass (language : Option Language) (name text : List Char) : Option (List Char) :=
  let code := stripComments language text
  let masked := mask language true text
  match (classHeader language name).search masked with
  | none => none
  | some header =>
    let rest := code.drop header.stop
    let headEnd := findTop (heritageStop language) rest
    let heritage := collapse (rest.take (headEnd.getD 0))
    let bodyStart := header.stop + headEnd.getD 0
    let whole := Cursor.start masked
    let bodyEnd :=
      match anyClass.searchAt (whole.advance (bodyStart + 1)) with
      | some other => other.start
      | none => text.length
    let inBody := Cursor.start (masked.take bodyEnd)
    let constructor :=
      match (constructorHeader language).searchAt (inBody.advance bodyStart) with
      | none => []
      | some found =>
        match closingParen code (found.stop - 1) with
        | none => []
        | some closeAt =>
          build (normalizeParams language
            ((code.drop (found.stop - 1)).take (closeAt + 2 - found.stop))) []
    some ("class".toList ++ (if heritage.isEmpty then [] else ' ' :: heritage) ++
      (if constructor.isEmpty then [] else " new".toList ++ constructor))

end EditImpact.Signature
