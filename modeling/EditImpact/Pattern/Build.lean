import EditImpact.Pattern.Basic

/-!
Vocabulary for writing patterns.
-/

namespace EditImpact.Pattern

instance : Append Pattern := ⟨seq⟩

instance : OrOp Pattern := ⟨alt⟩

def oneOf (chars : String) : CharSet := ⟨chars.toList.map .one, false, false⟩

def noneOf (chars : String) : CharSet := ⟨chars.toList.map .one, true, false⟩

/-- The given items together with the characters of a string. -/
def setOf (items : List CharItem) (chars : String) : CharSet :=
  ⟨items ++ chars.toList.map .one, false, false⟩

def one (c : Char) : Pattern := char ⟨[.one c], false, false⟩

def chars : List Char → Pattern
  | [] => empty
  | [c] => one c
  | c :: rest => seq (one c) (chars rest)

def lit (text : String) : Pattern := chars text.toList

def many (body : Pattern) : Pattern := rep true 0 none body

def many1 (body : Pattern) : Pattern := rep true 1 none body

def opt (body : Pattern) : Pattern := rep true 0 (some 1) body

/-- Any number of copies, as few as possible. -/
def few (body : Pattern) : Pattern := rep false 0 none body

def atLeast (count : Nat) (body : Pattern) : Pattern := rep true count none body

def between (least most : Nat) (body : Pattern) : Pattern := rep true least (some most) body

def blank : Pattern := char ⟨[.blank], false, false⟩

def blanks : Pattern := many blank

def blanks1 : Pattern := many1 blank

/-- Spaces and tabs. -/
def gap : Pattern := many (char (oneOf " \t"))

def gap1 : Pattern := many1 (char (oneOf " \t"))

def wordChar : Pattern := char ⟨[.word], false, false⟩

def digitChar : Pattern := char ⟨[.digit], false, false⟩

def word1 : Pattern := many1 wordChar

/-- Any character but a newline. -/
def anyChar : Pattern := char (noneOf "\n")

/-- Any characters except the given ones, any number of them. -/
def anyBut (stops : String) : Pattern := many (char (noneOf stops))

def letters : List CharItem := [.range 'A' 'Z', .range 'a' 'z']

/-- A name that may hold dollar signs. -/
def scriptName : Pattern :=
  char (setOf letters "_$") ++ many (char (setOf [.word] "$"))

/-- A name of letters, digits and underscores that starts with an ASCII letter or underscore. -/
def plainName : Pattern := char (setOf letters "_") ++ many wordChar

/-- The alternatives in order of preference. -/
def firstOf : List Pattern → Pattern
  | [] => empty
  | [pattern] => pattern
  | pattern :: patterns => alt pattern (firstOf patterns)

def anyWord (words : List String) : Pattern := firstOf (words.map lit)

end EditImpact.Pattern
