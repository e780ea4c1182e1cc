/-!
Blank characters, trimming and the two ways of cutting a text into lines.
-/

namespace EditImpact.Text

/-- Blank characters: the ASCII controls that separate text, the space, and the Unicode spaces. -/
def isBlank (c : Char) : Bool :=
  let code := c.toNat
  (9 ≤ code && code ≤ 13) || (28 ≤ code && code ≤ 32) || code == 0x85 || code == 0xA0 ||
    code == 0x1680 || (0x2000 ≤ code && code ≤ 0x200A) || code == 0x2028 || code == 0x2029 ||
    code == 0x202F || code == 0x205F || code == 0x3000

def trimStart (text : List Char) : List Char := text.dropWhile isBlank

def trimEnd (text : List Char) : List Char := (text.reverse.dropWhile isBlank).reverse

/-- The text without its leading and trailing blanks. -/
def trim (text : List Char) : List Char := trimEnd (trimStart text)

/-- Pieces between separators that satisfy `separates`; a text without any is one piece. -/
def splitBy (separates : Char → Bool) : List Char → List (List Char)
  | [] => [[]]
  | c :: rest =>
    match splitBy separates rest with
    | [] => [[c]]
    | piece :: pieces => if separates c then [] :: piece :: pieces else (c :: piece) :: pieces

/-- Lines separated by newlines: a final newline is followed by one more, empty line. -/
def newlineLines (text : List Char) : List (List Char) := splitBy (· == '\n') text

/-- Characters that end a line when every kind of line boundary counts. -/
def isLineBoundary (c : Char) : Bool :=
  let code := c.toNat
  (10 ≤ code && code ≤ 13) || (28 ≤ code && code ≤ 30) || code == 0x85 || code == 0x2028 ||
    code == 0x2029

/-- Lines ended by any line boundary; a carriage return with a newline after it is one boundary.
A text that ends in a boundary has no empty line after it. -/
def boundaryLines : List Char → List (List Char)
  | [] => []
  | '\r' :: '\n' :: rest => [] :: boundaryLines rest
  | c :: rest =>
    if isLineBoundary c then [] :: boundaryLines rest
    else
      match boundaryLines rest with
      | [] => [[c]]
      | line :: lines => (c :: line) :: lines

/-- The pieces with the separator between them. -/
def joinWith (separator : List Char) : List (List Char) → List Char
  | [] => []
  | [piece] => piece
  | piece :: next :: pieces => piece ++ separator ++ joinWith separator (next :: pieces)

def startsWith (start text : List Char) : Bool := start.isPrefixOf text

/-- The rest of a text after a given start. -/
def afterStart? : List Char → List Char → Option (List Char)
  | [], text => some text
  | _ :: _, [] => none
  | c :: start, d :: text => if c == d then afterStart? start text else none

/-- Where `part` first occurs in `text`. -/
def indexOf (part : List Char) : List Char → Option Nat
  | [] => if part.isEmpty then some 0 else none
  | c :: rest =>
    if part.isPrefixOf (c :: rest) then some 0 else (indexOf part rest).map (· + 1)

def occursIn (part text : List Char) : Bool := (indexOf part text).isSome

end EditImpact.Text
