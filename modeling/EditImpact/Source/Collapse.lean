import EditImpact.Text.Blank

/-!
Collapsing: runs of blanks become one space, and spaces next to punctuation disappear. Two texts
with the same words and punctuation collapse to the same text.
-/

namespace EditImpact.Source

/-- Punctuation that needs no space around it. -/
def isPunctuation (c : Char) : Bool :=
  ['<', '>', '(', ')', '[', ']', '\x7b', '\x7d', ',', ':', ';', '|', '&', '=', '?', '*'].contains c

/-- Every run of blanks as one space; `inBlank` says that the run has already been written. -/
def squeeze : Bool → List Char → List Char
  | _, [] => []
  | inBlank, c :: rest =>
    if Text.isBlank c then
      if inBlank then squeeze true rest else ' ' :: squeeze true rest
    else c :: squeeze false rest

/-- Drops blanks that stand after or before punctuation. -/
def tighten : Bool → List Char → List Char
  | _, [] => []
  | afterPunctuation, c :: rest =>
    if Text.isBlank c then
      if afterPunctuation || (rest.head?.any isPunctuation) then tighten afterPunctuation rest
      else c :: tighten false rest
    else c :: tighten (isPunctuation c) rest

def collapse (text : List Char) : List Char :=
  tighten false (Text.trim (squeeze false text))

/-- The maximal runs of characters that are not blank. -/
def blankWords (text : List Char) : List (List Char) :=
  (Text.splitBy Text.isBlank text).filter (!·.isEmpty)

end EditImpact.Source
