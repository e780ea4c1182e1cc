import EditImpact.Language

/-!
Masking: every character of a source text is code, part of a comment or part of a string literal,
and masking replaces the latter two by spaces. Offsets and newlines stay, so places found in a
masked text are places of the text itself.

The reader takes one character at a time and looks at most two characters ahead. It never fails:
an unclosed string or comment simply reaches to the end of the text.
-/

namespace EditImpact.Source

/-- How a language writes comments and strings. -/
structure Dialect where
  /-- `#` opens a comment and three quotes open a long string; otherwise comments are written with
  two slashes, or with a slash and an asterisk. -/
  hashComments : Bool
  quotes : List Char
  deriving DecidableEq, Repr

def Dialect.of : Option Language → Dialect
  | some .python => ⟨true, ['\'', '"']⟩
  | some .rust => ⟨false, ['"']⟩
  | _ => ⟨false, ['\'', '"', '`']⟩

/-- Where the reader stands between two characters. -/
inductive Mode where
  | code
  | lineComment
  /-- The asterisk of a comment opening is next. -/
  | blockOpen
  | block
  /-- The slash of a comment closing is next. -/
  | blockClose
  /-- That many quotes of a long opening delimiter are still to come. -/
  | opening (quote : Char) (left : Nat)
  | quoted (quote : Char) (long : Bool)
  /-- The next character is escaped. -/
  | escaped (quote : Char) (long : Bool)
  /-- That many quotes of a long closing delimiter are still to come. -/
  | closing (left : Nat)
  deriving DecidableEq, Repr

/-- What a character belongs to. The delimiters of a string count as code. -/
inductive Cover where
  | code
  | comment
  | literal
  deriving DecidableEq, Repr

/-- The cover of one character and the place after it, given the characters that follow. -/
def step (dialect : Dialect) : Mode → Char → List Char → Cover × Mode
  | .code, c, rest =>
    if (if dialect.hashComments then c == '#' else c == '/' && rest.head? == some '/') then
      (.comment, .lineComment)
    else if !dialect.hashComments && c == '/' && rest.head? == some '*' then
      (.comment, .blockOpen)
    else if dialect.quotes.contains c then
      if dialect.hashComments && [c, c].isPrefixOf rest then (.code, .opening c 2)
      else (.code, .quoted c false)
    else (.code, .code)
  | .lineComment, c, _ => if c == '\n' then (.code, .code) else (.comment, .lineComment)
  | .blockOpen, _, _ => (.comment, .block)
  | .block, c, rest =>
    if c == '*' && rest.head? == some '/' then (.comment, .blockClose) else (.comment, .block)
  | .blockClose, _, _ => (.comment, .code)
  | .opening quote left, _, _ =>
    (.code, if left ≤ 1 then .quoted quote true else .opening quote (left - 1))
  | .quoted quote long, c, rest =>
    if c == '\\' then (.literal, .escaped quote long)
    else if long then
      if c == quote && [quote, quote].isPrefixOf rest then (.code, .closing 2)
      else (.literal, .quoted quote long)
    else if c == quote then (.code, .code)
    else if c == '\n' && quote != '`' then (.code, .code)
    else (.literal, .quoted quote long)
  | .escaped quote long, _, _ => (.literal, .quoted quote long)
  | .closing left, _, _ => (.code, if left ≤ 1 then .code else .closing (left - 1))

/-- The covers of a text that is read from the given place on. -/
def covers (dialect : Dialect) : Mode → List Char → List Cover
  | _, [] => []
  | mode, c :: rest =>
    (step dialect mode c rest).1 :: covers dialect (step dialect mode c rest).2 rest

/-- A space in place of everything but newlines. -/
def blankOut (c : Char) : Char := if c == '\n' then c else ' '

/-- The visible form of a character; string contents are hidden only on request. -/
def paint (hideStrings : Bool) : Cover → Char → Char
  | .code, c => c
  | .comment, c => blankOut c
  | .literal, c => if hideStrings then blankOut c else c

/-- The text with comments, and string contents if asked, replaced by spaces. -/
def mask (language : Option Language) (hideStrings : Bool) (text : List Char) : List Char :=
  List.zipWith (paint hideStrings) (covers (Dialect.of language) .code text) text

/-- The text with only its comments replaced by spaces. -/
def stripComments (language : Option Language) (text : List Char) : List Char :=
  mask language false text

theorem covers_length (dialect : Dialect) (mode : Mode) (text : List Char) :
    (covers dialect mode text).length = text.length := by
  induction text generalizing mode with
  | nil => rfl
  | cons c rest induction => simp [covers, induction]

theorem mask_length (language : Option Language) (hideStrings : Bool) (text : List Char) :
    (mask language hideStrings text).length = text.length := by
  simp [mask, covers_length]

end EditImpact.Source
