import EditImpact.Text.Utf8
import EditImpact.Yaml.Scalar

/-!
Reading YAML: block and flow collections, quoted and unquoted words, literal and folded texts, one
document. Anchors, tags and keys that are collections are not read.
-/

namespace EditImpact.Yaml

/-- A place in a text with its column. -/
structure Place where
  rest : List Char
  column : Nat
  deriving DecidableEq, Repr

namespace Place

def step (place : Place) : Place :=
  match place.rest with
  | [] => place
  | '\n' :: rest => ⟨rest, 0⟩
  | _ :: rest => ⟨rest, place.column + 1⟩

def skip : Nat → Place → Place
  | 0, place => place
  | count + 1, place => skip count place.step

end Place

/-- What ends a word: a blank, a line end, or the end of the text. -/
def isGap : Option Char → Bool
  | none => true
  | some c => c == ' ' || c == '\t' || c == '\n'

/-- Three equal marks at the start of a line, which bound documents. -/
def isMark (mark : Char) (place : Place) : Bool :=
  place.column == 0 &&
    match place.rest with
    | a :: b :: c :: rest => a == mark && b == mark && c == mark && isGap rest.head?
    | _ => false

def isDocumentEnd (place : Place) : Bool :=
  place.rest.isEmpty || isMark '-' place || isMark '.' place

/-- The next word after spaces, comments and line ends, and whether a line ended before it. -/
def toWordFrom : Bool → Bool → List Char → Nat → Place × Bool
  | crossed, _, [], column => (⟨[], column⟩, crossed)
  | crossed, inComment, c :: rest, column =>
    if c == '\n' then toWordFrom true false rest 0
    else if inComment || c == ' ' then toWordFrom crossed inComment rest (column + 1)
    else if c == '#' then toWordFrom crossed true rest (column + 1)
    else (⟨c :: rest, column⟩, crossed)

def toWord (place : Place) : Place × Bool := toWordFrom false false place.rest place.column

abbrev Reading (Item : Type) := Option (Item × Place)

/-- Line ends between the lines of a word: one is a space, each further one stays. -/
def fold (breaks : Nat) : List Char :=
  if breaks ≤ 1 then [' '] else List.replicate (breaks - 1) '\n'

/-- The spaces and line ends from here on: the number of line ends, whether there was any space after
the word, and the place behind them. -/
def blankRun : Nat → List Char → Nat → Nat × Place
  | breaks, c :: rest, column =>
    if c == '\n' then blankRun (breaks + 1) rest 0
    else if c == ' ' then blankRun breaks rest (column + 1)
    else (breaks, ⟨c :: rest, column⟩)
  | breaks, [], column => (breaks, ⟨[], column⟩)

/-- An unquoted word on one line, without the spaces at its end. In a flow collection brackets and
commas end it too. -/
def plainLine (inFlow : Bool) : List Char → Nat → List Char × Place
  | [], column => ([], ⟨[], column⟩)
  | c :: rest, column =>
    let ends :=
      c == '\n' || c == '\t' ||
      (c == ':' && (isGap rest.head? || (inFlow && rest.head?.any (",[]\x7b\x7d".toList.contains ·)))) ||
      (inFlow && ",[]\x7b\x7d".toList.contains c) ||
      (c == ' ' && (rest.dropWhile (· == ' ')).head? == some '#') ||
      (c == ' ' && (rest.dropWhile (· == ' ')).head?.all (· == '\n'))
    if ends then ([], ⟨c :: rest, column⟩)
    else
      let (word, place) := plainLine inFlow rest (column + 1)
      match word, c with
      | [], ' ' => ([], ⟨c :: rest, column⟩)
      | _, _ => (c :: word, place)

/-- An unquoted word that may go on over lines that are indented more than `indent`. -/
def plainLines (inFlow : Bool) (indent : Int) : Nat → Place → List Char × Place
  | 0, place => ([], place)
  | fuel + 1, place =>
    let (line, after) := plainLine inFlow place.rest place.column
    if line.isEmpty then ([], place)
    else
      let (breaks, next) := blankRun 0 after.rest after.column
      if breaks == 0 || next.rest.head? == some '#' || isDocumentEnd next ||
          (!inFlow && (next.column : Int) ≤ indent) then (line, after)
      else
        let (more, last) := plainLines inFlow indent fuel next
        if more.isEmpty then (line, after) else (line ++ fold breaks ++ more, last)

/-- Drops the spaces before a line end. -/
def dropSpaces (text : List Char) : List Char := text.dropWhile (· == ' ')

/-- A text between single quotes, where two of them stand for one. -/
def singleQuoted : Nat → Place → List Char → Reading (List Char)
  | 0, _, _ => none
  | fuel + 1, place, read =>
    match place.rest with
    | [] => none
    | '\'' :: '\'' :: _ => singleQuoted fuel (place.skip 2) ('\'' :: read)
    | '\'' :: _ => some (read.reverse, place.step)
    | '\n' :: _ =>
      let (breaks, next) := blankRun 0 place.rest place.column
      if isDocumentEnd next then none
      else singleQuoted fuel next ((fold breaks).reverse ++ dropSpaces read)
    | c :: _ => singleQuoted fuel place.step (c :: read)

def simpleEscape? : Char → Option (List Char)
  | '0' => some ['\x00']
  | 'a' => some ['\x07']
  | 'b' => some ['\x08']
  | 't' => some ['\t']
  | '\t' => some ['\t']
  | 'n' => some ['\n']
  | 'v' => some ['\x0b']
  | 'f' => some ['\x0c']
  | 'r' => some ['\r']
  | 'e' => some ['\x1b']
  | ' ' => some [' ']
  | '"' => some ['"']
  | '/' => some ['/']
  | '\\' => some ['\\']
  | 'N' => some ['\u0085']
  | '_' => some ['\u00a0']
  | 'L' => some ['\u2028']
  | 'P' => some ['\u2029']
  | _ => none

def escapeLength : Char → Nat
  | 'x' => 2
  | 'u' => 4
  | 'U' => 8
  | _ => 0

/-- A text between double quotes, with escapes. -/
def doubleQuoted : Nat → Place → List Char → Reading (List Char)
  | 0, _, _ => none
  | fuel + 1, place, read =>
    match place.rest with
    | [] => none
    | '"' :: _ => some (read.reverse, place.step)
    | '\\' :: '\n' :: rest =>
      let (breaks, next) := blankRun 0 rest 0
      doubleQuoted fuel next (List.replicate breaks '\n' ++ read)
    | '\\' :: c :: rest =>
      match simpleEscape? c with
      | some escaped => doubleQuoted fuel (place.skip 2) (escaped.reverse ++ read)
      | none =>
        let count := escapeLength c
        let digits := rest.take count
        if count == 0 || digits.length < count ||
            !digits.all (fun d => d.isDigit || ('a' ≤ d && d ≤ 'f') || ('A' ≤ d && d ≤ 'F')) then none
        else doubleQuoted fuel (place.skip (2 + count)) (Char.ofNat (inBase 16 digits) :: read)
    | '\n' :: _ =>
      let (breaks, next) := blankRun 0 place.rest place.column
      if isDocumentEnd next then none
      else doubleQuoted fuel next ((fold breaks).reverse ++ dropSpaces read)
    | c :: _ => doubleQuoted fuel place.step (c :: read)

def quotedText (place : Place) : Reading (List Char) :=
  match place.rest with
  | '\'' :: rest => singleQuoted (rest.length + 1) place.step []
  | '"' :: rest => doubleQuoted (rest.length + 1) place.step []
  | _ => none

def isQuote (c : Char) : Bool := c == '\'' || c == '"'

/-- Whether an unquoted word can start here. -/
def startsPlain (inFlow : Bool) : List Char → Bool
  | [] => false
  | c :: rest =>
    if "-?:".toList.contains c then
      !isGap rest.head? && !(inFlow && (c != '-') && rest.head?.any (",[]\x7b\x7d".toList.contains ·))
    else !(" \t\n,[]\x7b\x7d#&*!|>'\"%@`".toList.contains c)

/-- A word as a key on one line, and the place behind its colon. -/
def blockKey? (place : Place) : Option (Value × Place) :=
  let read : Reading Value :=
    if place.rest.head?.any isQuote then
      (quotedText place).bind fun (text, after) =>
        let span := place.rest.take (place.rest.length - after.rest.length)
        if span.contains '\n' then none else some (.text (String.ofList text), after)
    else if startsPlain false place.rest then
      let (word, after) := plainLine false place.rest place.column
      if word.isEmpty then none else some (scalar word, after)
    else none
  match read with
  | none => none
  | some (key, after) =>
    let spaces := (after.rest.takeWhile (· == ' ')).length
    let colon := after.skip spaces
    match colon.rest with
    | ':' :: rest => if isGap rest.head? then some (key, colon.step) else none
    | _ => none

def isDash (place : Place) : Bool :=
  match place.rest with
  | '-' :: rest => isGap rest.head?
  | _ => false

/-- The lines of a literal or folded text, each with its indentation taken off. -/
def blockLines (indent : Nat) : Nat → Place → List (List Char) × Place
  | 0, place => ([], place)
  | fuel + 1, place =>
    if place.rest.isEmpty then ([], place)
    else
      let spaces := (place.rest.takeWhile (· == ' ')).length
      let afterSpaces := place.rest.drop spaces
      if afterSpaces.head?.all (· == '\n') then
        let (more, last) := blockLines indent fuel (place.skip (spaces + 1))
        ((place.rest.take spaces).drop indent :: more, last)
      else if spaces < indent || isDocumentEnd place then ([], place)
      else
        let line := (place.rest.drop indent).takeWhile (· != '\n')
        let (more, last) := blockLines indent fuel (place.skip (indent + line.length + 1))
        (line :: more, last)

/-- The column of the first line that is not blank. -/
def firstColumn (text : List Char) : Nat :=
  let (_, place) := blankRun 0 text 0
  place.column

/-- Joins the lines of a folded text: lines side by side are joined by a space. -/
def foldLines : List (List Char) → List Char
  | [] => []
  | [line] => line
  | line :: next :: lines =>
    if line.isEmpty then '\n' :: foldLines (next :: lines)
    else if next.isEmpty || next.head? == some ' ' || line.head? == some ' ' then
      line ++ (if next.isEmpty then [] else ['\n']) ++ foldLines (next :: lines)
    else line ++ [' '] ++ foldLines (next :: lines)

/-- A literal or folded text after its sign. -/
def blockText (indent : Int) (folded : Bool) (place : Place) : Reading Value :=
  let header := place.rest.takeWhile (· != '\n')
  let marks := header.takeWhile (fun c => c != ' ' && c != '#')
  let comment := dropSpaces (header.drop marks.length)
  if !(marks.all fun c => c == '-' || c == '+' || c.isDigit) ||
      !(comment.isEmpty || comment.head? == some '#') then none
  else
    let body := place.skip (header.length + 1)
    let given := marks.filter Char.isDigit
    let base := (max indent 0).toNat
    let column := if given.isEmpty then max (base + 1) (firstColumn body.rest) else base + inBase 10 given
    let column := if indent < 0 && given.isEmpty then firstColumn body.rest else column
    let (lines, last) := blockLines column (body.rest.length + 1) body
    let kept := (lines.reverse.dropWhile (·.isEmpty)).reverse
    let text := if folded then foldLines kept else Text.joinWith ['\n'] kept
    let ending :=
      if marks.contains '-' || kept.isEmpty then []
      else if marks.contains '+' then List.replicate (lines.length - kept.length + 1) '\n'
      else ['\n']
    some (.text (String.ofList (text ++ ending)), last)

/-- A map under construction: the fields whose key is a text, and whether all keys were. -/
structure Fields where
  fields : List (String × Value) := []
  plainKeys : Bool := true

def Fields.put (held : Fields) (key value : Value) : Fields :=
  match key with
  | .text name => { held with fields := Value.putField name value held.fields }
  | _ => { held with plainKeys := false }

/-- A value together with whether it is a map with a key that is no text. -/
structure Read where
  value : Value
  plainKeys : Bool := true

mutual

/-- A value in a flow collection; the first argument bounds the depth. -/
def flowValue : Nat → Place → Reading Read
  | 0, _ => none
  | fuel + 1, place =>
    match place.rest with
    | '[' :: _ => (flowItems fuel (toWord place.step).1).map fun (items, after) => (⟨.list items, true⟩, after)
    | '\x7b' :: _ =>
      (flowFields fuel {} (toWord place.step).1).map fun (held, after) =>
        (⟨.map held.fields, held.plainKeys⟩, after)
    | c :: _ =>
      if isQuote c then
        (quotedText place).map fun (text, after) => (⟨.text (String.ofList text), true⟩, after)
      else if startsPlain true place.rest then
        let (word, after) := plainLines true (-1) (place.rest.length + 1) place
        some (⟨scalar word, true⟩, after)
      else none
    | [] => none

/-- The items of a flow list up to its bracket. A pair by itself is a map of one field. -/
def flowItems : Nat → Place → Reading (List Value)
  | 0, _ => none
  | fuel + 1, place =>
    match place.rest with
    | ']' :: _ => some ([], place.step)
    | _ =>
      match flowValue fuel place with
      | none => none
      | some (first, after) =>
        let behind := (toWord after).1
        let paired : Reading Value :=
          match behind.rest with
          | ':' :: _ =>
            let next := (toWord behind.step).1
            match next.rest with
            | ',' :: _ | ']' :: _ => some (.map (({} : Fields).put first.value .null).fields, next)
            | _ =>
              (flowValue fuel next).map fun (value, after) =>
                (.map (({} : Fields).put first.value value.value).fields, after)
          | _ => some (first.value, after)
        match paired with
        | none => none
        | some (item, after) =>
          let next := (toWord after).1
          match next.rest with
          | ',' :: _ =>
            (flowItems fuel (toWord next.step).1).map fun (items, last) => (item :: items, last)
          | ']' :: _ => some ([item], next.step)
          | _ => none

/-- The fields of a flow map up to its brace. -/
def flowFields : Nat → Fields → Place → Reading Fields
  | 0, _, _ => none
  | fuel + 1, held, place =>
    match place.rest with
    | '\x7d' :: _ => some (held, place.step)
    | _ =>
      match flowValue fuel place with
      | none => none
      | some (key, after) =>
        let behind := (toWord after).1
        let paired : Reading Value :=
          match behind.rest with
          | ':' :: _ =>
            let next := (toWord behind.step).1
            match next.rest with
            | ',' :: _ | '\x7d' :: _ => some (.null, next)
            | _ => (flowValue fuel next).map fun (value, after) => (value.value, after)
          | _ => some (.null, after)
        match paired with
        | none => none
        | some (value, after) =>
          let next := (toWord after).1
          let held := held.put key.value value
          match next.rest with
          | ',' :: _ => flowFields fuel held (toWord next.step).1
          | '\x7d' :: _ => some (held, next.step)
          | _ => none

end

/-- A value on the line of its key or by itself: a flow collection, a quoted or unquoted word, or a
literal or folded text. -/
def inlineValue (indent : Int) (place : Place) : Reading Read :=
  match place.rest with
  | [] => none
  | '|' :: _ => (blockText indent false place.step).map fun (value, after) => (⟨value, true⟩, after)
  | '>' :: _ => (blockText indent true place.step).map fun (value, after) => (⟨value, true⟩, after)
  | c :: _ =>
    if c == '[' || c == '\x7b' || isQuote c then flowValue (place.rest.length + 1) place
    else if startsPlain false place.rest then
      let (word, after) := plainLines false indent (place.rest.length + 1) place
      some (⟨scalar word, true⟩, after)
    else none

mutual

/-- A block value at a place; collections start where a dash or a key stands. -/
def blockValue : Nat → Int → Place → Reading Read
  | 0, _, _ => none
  | fuel + 1, indent, place =>
    if isDash place then
      (blockItems fuel place.column place).map fun (items, after) => (⟨.list items, true⟩, after)
    else if (blockKey? place).isSome then
      (blockFields fuel place.column {} place).map fun (held, after) =>
        (⟨.map held.fields, held.plainKeys⟩, after)
    else inlineValue indent place

/-- The items of a block list whose dashes stand in a column. -/
def blockItems : Nat → Nat → Place → Reading (List Value)
  | 0, _, _ => none
  | fuel + 1, column, place =>
    let (start, crossed) := toWord place.step
    let item : Reading Value :=
      if isDocumentEnd start || (crossed && start.column ≤ column) then some (.null, place.step)
      else (blockValue fuel column start).map fun (read, after) => (read.value, after)
    match item with
    | none => none
    | some (value, after) =>
      let (next, crossed) := toWord after
      if isDocumentEnd next then some ([value], after)
      else if crossed || after.column == 0 then
        if next.column == column && isDash next then
          (blockItems fuel column next).map fun (values, last) => (value :: values, last)
        else some ([value], after)
      else none

/-- The fields of a block map whose keys stand in a column. -/
def blockFields : Nat → Nat → Fields → Place → Reading Fields
  | 0, _, _, _ => none
  | fuel + 1, column, held, place =>
    match blockKey? place with
    | none => none
    | some (key, behind) =>
      let (start, crossed) := toWord behind
      let value : Reading Value :=
        if isDocumentEnd start then some (.null, behind)
        else if !crossed then (inlineValue column start).map fun (read, after) => (read.value, after)
        else if column < start.column then
          (blockValue fuel column start).map fun (read, after) => (read.value, after)
        else if start.column == column && isDash start then
          (blockItems fuel column start).map fun (items, after) => (.list items, after)
        else some (.null, behind)
      match value with
      | none => none
      | some (value, after) =>
        let held := held.put key value
        let (next, crossed) := toWord after
        if isDocumentEnd next then some (held, after)
        else if crossed || after.column == 0 then
          if next.column == column && (blockKey? next).isSome then blockFields fuel column held next
          else some (held, after)
        else none

end

/-- Characters that a text may hold: no controls but the tab and line ends. -/
def isAllowed (c : Char) : Bool :=
  let code := c.toNat
  code == 9 || code == 10 || code == 13 || (0x20 ≤ code && code ≤ 0x7E) || code == 0x85 ||
    (0xA0 ≤ code && code != 0xFFFE && code != 0xFFFF)

/-- Reads the text of one document; an empty one is null. On the line of a document mark no block
collection may start. -/
def readDocument? (text : List Char) : Option Read :=
  let first := (toWord ⟨text, 0⟩).1
  let marked := isMark '-' first
  let start := if marked then first.skip 3 else first
  let (place, crossed) := toWord start
  let whole : Reading Read :=
    if isDocumentEnd place then some (⟨.null, true⟩, start)
    else if marked && !crossed then inlineValue (-1) place
    else blockValue (text.length + 1) (-1) place
  match whole with
  | none => none
  | some (value, after) =>
    let last := (toWord after).1
    if last.rest.isEmpty then some value
    else if isMark '.' last && (toWord (last.skip 3)).1.rest.isEmpty then some value
    else none

/-- Reads a text with one document. A byte order mark in front does not count, and every way to end
a line is the same. -/
def read? (text : List Char) : Option Read :=
  if text.all isAllowed then
    readDocument? (Text.unixLines (match text with
      | '\ufeff' :: rest => rest
      | _ => text))
  else none

end EditImpact.Yaml
