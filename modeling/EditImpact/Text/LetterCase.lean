import EditImpact.Text.CaseTable

/-!
Letter case: lower-casing of single letters and of whole texts, and equality of letters when case
is ignored.
-/

namespace EditImpact.Text

def shifted (code : Nat) (distance : Int) : Char := Char.ofNat (code + distance).toNat

/-- The lower-case partner of a letter; any other character is its own. -/
def lowerChar (c : Char) : Char :=
  if c.toNat < 128 then c.toLower
  else
    match lowerRuns.find? (·.contains c.toNat) with
    | some run => shifted c.toNat run.distance
    | none => c

def isLowerCase (c : Char) : Bool :=
  if c.toNat < 128 then c.isLower else inRuns lowerCaseRuns c.toNat

def isCased (c : Char) : Bool := inRuns casedRuns c.toNat

def isCaseIgnorable (c : Char) : Bool := inRanges caseIgnorableRanges c.toNat

/-- The nearest character that is not passed over is a cased letter. -/
def nearestIsCased (text : List Char) : Bool :=
  match text.dropWhile isCaseIgnorable with
  | [] => false
  | c :: _ => isCased c

/-- Lower case of a text read left to right; `before` holds the characters already read, nearest
first. A capital sigma at the end of a word becomes the final form, and the dotted capital I keeps
its dot as a combining mark. -/
def lowerAfter (before : List Char) : List Char → List Char
  | [] => []
  | c :: rest =>
    let lowered :=
      if c.toNat == 0x130 then ['i', Char.ofNat 0x307]
      else if c.toNat == 0x3A3 then
        if nearestIsCased before && !nearestIsCased rest then [Char.ofNat 0x3C2]
        else [Char.ofNat 0x3C3]
      else [lowerChar c]
    lowered ++ lowerAfter (c :: before) rest

def lower (text : List Char) : List Char := lowerAfter [] text

/-- Letters with the same lower case, or listed together as variants of one letter. No list holds
two ASCII letters. -/
def sameLetter (a b : Char) : Bool :=
  let lowA := (lowerChar a).toNat
  let lowB := (lowerChar b).toNat
  lowA == lowB ||
    (!(lowA < 128 && lowB < 128) &&
      caseClasses.any fun letters => letters.contains lowA && letters.contains lowB)

/-- The spellings of `c` that a range of ASCII letters is tested with when case is ignored. -/
def caseVariants (c : Char) : List Char :=
  let low := lowerChar c
  let related := (caseClasses.filter (·.contains low.toNat)).flatten.map Char.ofNat
  let lows := low :: related
  lows ++ lows.map Char.toUpper

end EditImpact.Text
