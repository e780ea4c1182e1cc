import EditImpact.Lines.Diff

/-!
Patch texts as version control writes them: text before the first patch is skipped, each patch has a
header of fixed shape and then its hunks, whose line counts have to be right. One malformed patch
spoils the whole text.
-/

namespace EditImpact.Lines.Patch

/-- What kind of change a patch header announces. -/
inductive Change where
  | modified
  | added
  | deleted
  | moved
  deriving DecidableEq, Repr

/-- What a patch header says. -/
structure Header where
  headerOld : Option (List Char) := none
  headerNew : Option (List Char) := none
  oldPath : Option (List Char) := none
  newPath : Option (List Char) := none
  change : Change := .modified
  oldMode : Option Nat := none
  newMode : Option Nat := none

/-- How far a header has been read. -/
inductive Stage where
  | start
  | begun
  | fileMode
  | mode
  | index
  | path
  | similarity
  | renamed
  | copied
  | complete
  deriving DecidableEq, Repr

def after? (start : String) (line : List Char) : Option (List Char) := Text.afterStart? start.toList line

def isSpace (c : Char) : Bool := c == ' ' || (9 ≤ c.toNat && c.toNat ≤ 13)

/-- Only blanks and the newline are left on the line. -/
def isDone (rest : List Char) : Bool :=
  (rest.dropWhile fun c => isSpace c && c != '\n') == ['\n']

/-- A word and the text after it. -/
def word (text : List Char) : List Char × List Char := text.span (!isSpace ·)

/-- The old and new names on the opening line; with more than two words they stay unknown. -/
def readNames (rest : List Char) (header : Header) : Option Header :=
  let (old, afterOld) := word rest
  let (new, afterNew) := word (afterOld.dropWhile fun c => isSpace c && c != '\n')
  if old.isEmpty || new.isEmpty then none
  else if afterNew == ['\n'] || afterNew == ['\r', '\n'] then
    some { header with headerOld := some old, headerNew := some new }
  else some header

/-- The rest of the line as a path. -/
def pathOf (rest : List Char) : List Char := Text.trimEnd rest.dropLast

def octal? (digits : List Char) : Option Nat :=
  if digits.isEmpty || digits.any (fun c => !('0' ≤ c && c ≤ '7')) then none
  else some (digits.foldl (fun total c => total * 8 + (c.toNat - '0'.toNat)) 0)

/-- A file mode that fills the line. -/
def modeOf (rest : List Char) : Option Nat :=
  let (digits, left) := word rest
  if isDone left then octal? digits else none

def isHex (c : Char) : Bool :=
  c.isDigit || ('a' ≤ c && c ≤ 'f') || ('A' ≤ c && c ≤ 'F')

/-- An object id and the text after it. -/
def objectId? (text : List Char) : Option (List Char) :=
  let (digits, left) := text.span isHex
  if 4 ≤ digits.length && digits.length ≤ 40 then some left else none

def readIndex (rest : List Char) (header : Header) : Option Header := do
  let afterOld ← objectId? rest
  let dotted ← after? ".." afterOld
  let afterNew ← objectId? dotted
  match afterNew with
  | ' ' :: modeText =>
    if isDone modeText then some header
    else
      let mode ← modeOf modeText
      some { header with
        oldMode := header.oldMode <|> some mode
        newMode := header.newMode <|> some mode }
  | left => if isDone left then some header else none

def readPercent (rest : List Char) : Bool :=
  let (digits, left) := rest.span Char.isDigit
  !digits.isEmpty && (match left with | '%' :: left => isDone left | _ => false)

/-- One kind of header line: how it starts, when it may come, what follows, and what it says. -/
structure HeaderLine where
  opening : String
  stage : Stage
  next : Stage
  read : List Char → Header → Option Header

def headerLines : List HeaderLine :=
  let oldPath := fun rest (header : Header) => some { header with oldPath := some (pathOf rest) }
  let newPath := fun rest (header : Header) => some { header with newPath := some (pathOf rest) }
  let moved := fun _ (header : Header) => some { header with change := .moved }
  let percent := fun rest (header : Header) => if readPercent rest then some header else none
  [⟨"diff --git ", .start, .begun, readNames⟩,
    ⟨"deleted file mode ", .begun, .fileMode, fun rest header => do
      let mode ← modeOf rest
      some { header with change := .deleted, oldMode := some mode }⟩,
    ⟨"new file mode ", .begun, .fileMode, fun rest header => do
      let mode ← modeOf rest
      some { header with change := .added, newMode := some mode }⟩,
    ⟨"old mode ", .begun, .mode, fun rest header => do
      let mode ← modeOf rest
      some { header with oldMode := some mode }⟩,
    ⟨"new mode ", .mode, .complete, fun rest header => do
      let mode ← modeOf rest
      some { header with newMode := some mode }⟩,
    ⟨"index ", .fileMode, .index, readIndex⟩,
    ⟨"index ", .begun, .index, readIndex⟩,
    ⟨"index ", .complete, .index, readIndex⟩,
    ⟨"--- ", .begun, .path, oldPath⟩,
    ⟨"--- ", .index, .path, oldPath⟩,
    ⟨"--- ", .fileMode, .path, oldPath⟩,
    ⟨"+++ ", .path, .complete, newPath⟩,
    ⟨"similarity index ", .complete, .similarity, percent⟩,
    ⟨"similarity index ", .begun, .similarity, percent⟩,
    ⟨"dissimilarity index ", .begun, .similarity, percent⟩,
    ⟨"rename from ", .similarity, .renamed, moved⟩,
    ⟨"rename old ", .similarity, .renamed, moved⟩,
    ⟨"copy from ", .similarity, .copied, moved⟩,
    ⟨"rename to ", .renamed, .complete, moved⟩,
    ⟨"rename new ", .renamed, .complete, moved⟩,
    ⟨"copy to ", .copied, .complete, moved⟩]

/-- Lines that end a header without belonging to it. -/
def headerEnds : List (String × Stage) :=
  [("GIT binary patch", .index), ("Binary files ", .index), ("diff --git ", .complete),
    ("@@ -", .complete), ("-- ", .index), ("-- ", .complete)]

/-- Reads a header and gives the lines after it. -/
def readHeader : Stage → Header → List (List Char) → Option (Header × List (List Char))
  | stage, header, [] => if stage == .complete then some (header, []) else none
  | stage, header, line :: lines =>
    if line.getLast? != some '\n' then
      if stage == .complete then some (header, line :: lines) else none
    else
      match headerLines.find? fun known =>
        known.stage == stage && (after? known.opening line).isSome with
      | some known =>
        match known.read ((after? known.opening line).getD []) header with
        | some read => readHeader known.next read lines
        | none => none
      | none =>
        if headerEnds.any fun known => known.2 == stage && (after? known.1 line).isSome then
          some (header, line :: lines)
        else none

/-- Digits and the text after them. -/
def number? (text : List Char) : Option (Nat × List Char) :=
  let (digits, left) := text.span Char.isDigit
  if digits.isEmpty then none
  else some (digits.foldl (fun total c => total * 10 + (c.toNat - '0'.toNat)) 0, left)

/-- A line number and a count, which is one unless it is given. -/
def range? (text : List Char) : Option (Nat × Nat × List Char) := do
  let (first, afterFirst) ← number? text
  match afterFirst with
  | ',' :: rest =>
    let (count, left) ← number? rest
    some (first, count, left)
  | left => some (first, 1, left)

structure HunkHeader where
  oldStart : Nat
  oldCount : Nat
  newStart : Nat
  newCount : Nat
  deriving DecidableEq, Repr

def hunkHeader? (line : List Char) : Option HunkHeader := do
  let rest ← after? "@@ -" line
  let (oldStart, oldCount, afterOld) ← range? rest
  let rest ← after? " +" afterOld
  let (newStart, newCount, afterNew) ← range? rest
  let _ ← after? " @@" afterNew
  if oldCount = 0 && newCount = 0 then none else some ⟨oldStart, oldCount, newStart, newCount⟩

/-- The lines of a hunk with the counts still to come; `none` if a line does not fit. -/
def readHunkLines (header : HunkHeader) :
    Int → Int → List (List Char) → Option (Hunk × List (List Char))
  | olds, news, [] => if olds = 0 && news = 0 then some ([], []) else none
  | olds, news, line :: lines =>
    if olds = 0 && news = 0 then some ([], line :: lines)
    else if (after? "@@ -" line).isSome || line.getLast? != some '\n' then none
    else
      let further := fun (first : Hunk) olds news =>
        (readHunkLines header olds news lines).map fun (hunk, left) => (first ++ hunk, left)
      match line.head? with
      | some '\n' => further [.kept] (olds - 1) (news - 1)
      | some ' ' => further [.kept] (olds - 1) (news - 1)
      | some '-' => further [.removed (header.oldStart + header.oldCount - olds)] (olds - 1) news
      | some '+' => further [.added (header.newStart + header.newCount - news)] olds (news - 1)
      | some '\\' => if olds = 0 then further [] olds news else none
      | _ => none

/-- Skips the note that a text has no newline at its end. -/
def skipEndNote : List (List Char) → List (List Char)
  | line :: lines => if (after? "\\ " line).isSome then lines else line :: lines
  | [] => []

def readHunks : Nat → List (List Char) → Option (List Hunk × List (List Char))
  | 0, _ => none
  | _ + 1, [] => some ([], [])
  | fuel + 1, line :: lines =>
    if (after? "@@ -" line).isSome then do
      let header ← hunkHeader? line
      let (hunk, left) ← readHunkLines header header.oldCount header.newCount lines
      let (hunks, rest) ← readHunks fuel (skipEndNote left)
      some (hunk :: hunks, rest)
    else some ([], line :: lines)

/-- Names on the opening line and on the path lines have to agree; the missing side of an added or
deleted file is the null device. -/
def namesAgree (opening path : Option (List Char)) (absent : Bool) : Bool :=
  match opening, path with
  | some one, some two => if absent then two == "/dev/null".toList else one == two
  | _, _ => true

/-- A path has a leading directory in front of its name. -/
def hasLeadingPart (path : List Char) : Bool :=
  match (path.dropWhile (· == '/')).dropWhile (· != '/') with
  | _ :: _ :: _ => true
  | _ => false

def isSound (header : Header) (binary : Bool) (hunks : List Hunk) : Bool :=
  let added := header.change == .added
  let deleted := header.change == .deleted
  let old := if added then header.headerOld else header.oldPath <|> header.headerOld
  let new := if deleted then header.headerNew else header.newPath <|> header.headerNew
  header.oldPath.isSome == header.newPath.isSome &&
    namesAgree header.headerOld header.oldPath added &&
    namesAgree header.headerNew header.newPath deleted &&
    old.all hasLeadingPart && new.all hasLeadingPart && (old.isSome || new.isSome) &&
    !(header.change == .modified && !binary && header.oldMode == header.newMode && hunks.isEmpty)

/-- Skips the data of a binary patch, up to the line after its last block. -/
def skipBinary : List (List Char) → List (List Char)
  | [] => []
  | line :: lines =>
    if (after? "diff --git " line).isSome then line :: lines else skipBinary lines

def binaryNote (header : Header) : Option (List Char) := do
  let old ← header.oldPath <|> header.headerOld
  let new ← header.newPath <|> header.headerNew
  let old := if header.change == .added then "/dev/null".toList else old
  let new := if header.change == .deleted then "/dev/null".toList else new
  some ("Binary files ".toList ++ old ++ " and ".toList ++ new ++ " differ\n".toList)

/-- The hunks of the patch whose opening line comes first, and the lines after it. -/
def readPatch (lines : List (List Char)) : Option (List Hunk × List (List Char)) := do
  let (header, body) ← readHeader .start {} lines
  match body with
  | line :: rest =>
    if (after? "GIT binary patch" line).isSome then
      if isSound header true [] then some ([], skipBinary rest) else none
    else if (after? "Binary files " line).isSome then
      let note ← binaryNote header
      if line == note && isSound header true [] then some ([], rest) else none
    else
      let (hunks, rest) ← readHunks (body.length + 1) body
      if isSound header false hunks then some (hunks, rest) else none
  | [] => if isSound header false [] then some ([], []) else none

/-- All hunks of a text; `found` says that a patch has been read already. -/
def readPatches : Nat → Bool → List (List Char) → Option (List Hunk)
  | 0, _, _ => none
  | _ + 1, found, [] => if found then some [] else none
  | fuel + 1, found, line :: lines =>
    if line.length < 6 then readPatches fuel found lines
    else if (after? "@@ -" line).isSome then
      if (hunkHeader? line).isSome then none else readPatches fuel found lines
    else if lines.flatten.length < 6 then if found then some [] else none
    else if (after? "diff --git " line).isSome then do
      let (hunks, rest) ← readPatch (line :: lines)
      let more ← readPatches fuel true rest
      some (hunks ++ more)
    else readPatches fuel found lines

/-- The line delta of a patch text; a malformed text has an empty one. -/
def delta (text : List Char) : LineDelta :=
  let lines := terminatedLines text
  match readPatches (lines.length + 1) false lines with
  | some hunks => deltaOfHunks hunks
  | none => {}

end EditImpact.Lines.Patch
