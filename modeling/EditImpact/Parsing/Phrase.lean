import EditImpact.Parsing.Tree

/-!
Grammars as data. A phrase says what a piece of text looks like and which nodes it becomes; a grammar
gives each of its rules a phrase. Alternatives are tried in order and the first one that fits is
taken. Reading is total: every use of a rule costs one unit of a budget that is computed from the
text.
-/

namespace EditImpact.Parsing

/-- Phrases over the rule names of a grammar. -/
inductive Phrase (Rule : Type) where
  /-- The empty text. -/
  | nothing
  /-- No text at all. -/
  | never
  /-- One character, right here. -/
  | char (accepts : Char → Bool)
  /-- The given characters, right here. -/
  | chars (text : List Char)
  /-- Blanks and comments. -/
  | gap
  | seq (first second : Phrase Rule)
  | alt (first second : Phrase Rule)
  | many (body : Phrase Rule)
  /-- Fits where the body fits, and reads nothing. -/
  | ahead (body : Phrase Rule)
  /-- Fits where the body does not, and reads nothing. -/
  | butNot (body : Phrase Rule)
  | rule (name : Rule)
  /-- One node over all that the body reads. -/
  | node (kind : Kind) (body : Phrase Rule)
  /-- Makes what the body reads a named part. -/
  | part (field : Field) (body : Phrase Rule)
  /-- A head and what may follow it; together they are one node when anything follows. -/
  | chain (head tail : Phrase Rule)
  /-- A line ends before the next word. -/
  | lineBreak
  /-- Nothing but blanks and comments is left. -/
  | atEnd
  /-- The end of a logical line, up to the next line that is not blank. -/
  | lineEnd
  /-- The next line is indented more deeply, which opens a block. -/
  | indent
  /-- The next line is indented less than the open block, which closes it. -/
  | dedent
  /-- The next line belongs to the open block. -/
  | aligned
  /-- Inside the body, line ends are blanks. -/
  | enclosed (body : Phrase Rule)

namespace Phrase

variable {Rule : Type}

instance : Append (Phrase Rule) := ⟨seq⟩

instance : OrOp (Phrase Rule) := ⟨alt⟩

def opt (body : Phrase Rule) : Phrase Rule := alt body nothing

def many1 (body : Phrase Rule) : Phrase Rule := seq body (many body)

def firstOf : List (Phrase Rule) → Phrase Rule
  | [] => never
  | [phrase] => phrase
  | phrase :: phrases => alt phrase (firstOf phrases)

def raw (text : String) : Phrase Rule := chars text.toList

/-- Punctuation, after blanks and comments. -/
def sign (text : String) : Phrase Rule := seq gap (raw text)

/-- Punctuation that is not the beginning of a longer one. -/
def signBut (text followers : String) : Phrase Rule :=
  seq (sign text) (butNot (char fun c => followers.toList.contains c))

/-- One character of a set, after blanks and comments. -/
def oneOf (set : String) : Phrase Rule := seq gap (char fun c => set.toList.contains c)

def noneOf (set : String) : Phrase Rule := char fun c => !set.toList.contains c

def plain (body : Phrase Rule) : Phrase Rule := node .plain body

def parens (body : Phrase Rule) : Phrase Rule := seq (sign "(") (seq body (sign ")"))

def brackets (body : Phrase Rule) : Phrase Rule := seq (sign "[") (seq body (sign "]"))

def braces (body : Phrase Rule) : Phrase Rule := seq (sign "\x7b") (seq body (sign "\x7d"))

/-- One or more items between commas. -/
def commas1 (item : Phrase Rule) : Phrase Rule := seq item (many (seq (sign ",") item))

/-- Any number of items between commas, with a comma after the last one if wanted. -/
def commas (item : Phrase Rule) : Phrase Rule := opt (seq (commas1 item) (opt (sign ",")))

/-- Items between commas, any of which may be left out. -/
def sparse (item : Phrase Rule) : Phrase Rule := seq (opt item) (many (seq (sign ",") (opt item)))

def given (condition : Bool) (body : Phrase Rule) : Phrase Rule :=
  if condition then body else never

end Phrase

/-- How many characters of blanks and comments a text starts with, where line ends count as blanks
if the flag says so; none if a comment does not end. -/
abbrev Trivia := Bool → List Char → Option Nat

/-- A place in a source text. -/
structure Cursor where
  rest : List Char
  offset : Nat
  line : Nat
  /-- The length of the whole text. -/
  total : Nat
  /-- Where the last word ended. -/
  stop : Nat
  indents : List Nat
  enclosed : Bool
  deriving Repr

namespace Cursor

def start (source : List Char) : Cursor := ⟨source, 0, 1, source.length, 0, [], false⟩

/-- Moves over blanks. -/
def drop : Nat → Cursor → Cursor
  | 0, cursor => cursor
  | count + 1, cursor =>
    match cursor.rest with
    | [] => cursor
    | c :: rest =>
      drop count { cursor with
        rest := rest, offset := cursor.offset + 1,
        line := if c == '\n' then cursor.line + 1 else cursor.line }

/-- Moves over characters that belong to a word. -/
def take (count : Nat) (cursor : Cursor) : Cursor :=
  let next := cursor.drop count
  { next with stop := next.offset }

def isLineEnd (c : Char) : Bool := c == '\n' || c == '\r' || c == '\u2028' || c == '\u2029'

/-- The column of the first character of a line; a tab is eight columns wide. -/
def column : List Char → Nat
  | ' ' :: rest => column rest + 1
  | '\t' :: rest => column rest + 8
  | '\x0c' :: rest => column rest
  | _ => 0

def depth (cursor : Cursor) : Nat := cursor.indents.headD 0

def isBlankInLine (c : Char) : Bool := c == ' ' || c == '\t' || c == '\x0c'

/-- The number of characters of blank lines and comment lines that a text starts with. The first
argument counts the characters of the line that is being read. -/
def blankLines : Nat → Bool → List Char → Nat
  | pending, _, [] => pending
  | pending, inComment, c :: rest =>
    if c == '\n' || c == '\r' then blankLines 0 false rest + pending + 1
    else if inComment || isBlankInLine c then blankLines (pending + 1) inComment rest
    else if c == '#' then blankLines (pending + 1) true rest
    else 0

/-- The characters up to the end of the line, where only blanks and a comment may stand. -/
def restOfLine : Bool → List Char → Option Nat
  | _, [] => some 0
  | inComment, c :: rest =>
    if c == '\n' || c == '\r' then some 0
    else if inComment || isBlankInLine c then (restOfLine inComment rest).map (· + 1)
    else if c == '#' then (restOfLine true rest).map (· + 1)
    else none

end Cursor

abbrev Outcome := Option (List Tree × Cursor)

namespace Phrase

variable {Rule : Type}

/-- Reads a body again and again as long as it moves on. -/
def repeated (body : Cursor → Outcome) : Nat → Cursor → List Tree × Cursor
  | 0, cursor => ([], cursor)
  | count + 1, cursor =>
    match body cursor with
    | none => ([], cursor)
    | some (trees, next) =>
      if next.offset == cursor.offset then ([], cursor)
      else
        let (more, last) := repeated body count next
        (trees ++ more, last)

/-- Puts trees into one node that begins at a place and ends where the last word did. -/
def wrap (kind : Kind) (start next : Cursor) (trees : List Tree) : Tree :=
  .node kind none ⟨start.offset, next.stop, start.line⟩ trees

def readGap (trivia : Trivia) (cursor : Cursor) : Option Cursor :=
  (trivia cursor.enclosed cursor.rest).map fun count => cursor.drop count

/-- Reads a phrase, given how rules are read. -/
def read (trivia : Trivia) (call : Rule → Cursor → Outcome) : Phrase Rule → Cursor → Outcome
  | nothing, cursor => some ([], cursor)
  | never, _ => none
  | char accepts, cursor =>
    match cursor.rest with
    | c :: _ => if accepts c then some ([], cursor.take 1) else none
    | [] => none
  | chars text, cursor =>
    if text.isPrefixOf cursor.rest then some ([], cursor.take text.length) else none
  | gap, cursor => (readGap trivia cursor).map fun next => ([], next)
  | seq first second, cursor =>
    match first.read trivia call cursor with
    | none => none
    | some (trees, next) =>
      match second.read trivia call next with
      | none => none
      | some (more, last) => some (trees ++ more, last)
  | alt first second, cursor =>
    match first.read trivia call cursor with
    | some outcome => some outcome
    | none => second.read trivia call cursor
  | many body, cursor =>
    some (repeated (body.read trivia call) (cursor.total - cursor.offset + 1) cursor)
  | ahead body, cursor => (body.read trivia call cursor).map fun _ => ([], cursor)
  | butNot body, cursor =>
    if (body.read trivia call cursor).isSome then none else some ([], cursor)
  | rule name, cursor => call name cursor
  | node kind body, cursor =>
    match readGap trivia cursor with
    | none => none
    | some start =>
      match body.read trivia call start with
      | none => none
      | some (trees, next) => some ([wrap kind start next trees], next)
  | part field body, cursor =>
    match readGap trivia cursor with
    | none => none
    | some start =>
      match body.read trivia call start with
      | none => none
      | some ([tree], next) => some ([tree.withField field], next)
      | some (trees, next) => some ([(wrap .plain start next trees).withField field], next)
  | chain head tail, cursor =>
    match readGap trivia cursor with
    | none => none
    | some start =>
      match head.read trivia call start with
      | none => none
      | some (trees, next) =>
        match tail.read trivia call next with
        | none => none
        | some (more, last) =>
          if last.stop == next.stop then some (trees, next)
          else some ([wrap .plain start last (trees ++ more)], last)
  | lineBreak, cursor =>
    match trivia true cursor.rest with
    | some count =>
      if (cursor.rest.take count).any Cursor.isLineEnd then some ([], cursor) else none
    | none => none
  | atEnd, cursor =>
    match trivia true cursor.rest with
    | some count => if (cursor.rest.drop count).isEmpty then some ([], cursor) else none
    | none => none
  | lineEnd, cursor =>
    (Cursor.restOfLine false cursor.rest).map fun count =>
      let next := cursor.drop count
      ([], next.drop (Cursor.blankLines 0 false next.rest))
  | indent, cursor =>
    let column := Cursor.column cursor.rest
    if !cursor.rest.isEmpty && cursor.depth < column then
      some ([], { cursor with indents := column :: cursor.indents })
    else none
  | dedent, cursor =>
    if cursor.rest.isEmpty || Cursor.column cursor.rest < cursor.depth then
      some ([], { cursor with indents := cursor.indents.tail })
    else none
  | aligned, cursor =>
    if !cursor.rest.isEmpty && cursor.depth ≤ Cursor.column cursor.rest then some ([], cursor)
    else none
  | enclosed body, cursor =>
    (body.read trivia call { cursor with enclosed := true }).map fun (trees, next) =>
      (trees, { next with enclosed := cursor.enclosed })

end Phrase

/-- A grammar: what its rules say, what counts as blank, and the rule for a whole text. -/
structure Grammar (Rule : Type) where
  rules : Rule → Phrase Rule
  trivia : Trivia
  whole : Rule

namespace Grammar

variable {Rule : Type}

/-- Reads a rule; the first argument bounds how deeply rules use rules. -/
def read (grammar : Grammar Rule) : Nat → Rule → Cursor → Outcome
  | 0, _, _ => none
  | budget + 1, name, cursor => (grammar.rules name).read grammar.trivia (grammar.read budget) cursor

/-- The syntax tree of a text, if all of it fits the grammar. -/
def parse? (grammar : Grammar Rule) (source : List Char) : Option Tree :=
  match grammar.read ((source.length + 1) * 64) grammar.whole (.start source) with
  | some (trees, cursor) => some (Phrase.wrap .plain (.start source) cursor trees)
  | none => none

end Grammar

end EditImpact.Parsing
