import EditImpact.Source.Mask
import EditImpact.Proofs.Source.Collapsing
import EditImpact.Proofs.Source.Words

/-!
# One blank more

A gap is a place of a text where a blank stands in front of which another one makes no difference: in
front of the end of a line any blank, in front of a space or tab a space or tab. This module says
what trimming, collapsing, slicing and masking make of the two texts, the narrow and the wide one:
texts that are equal or again differ by one blank in a gap (`Alike`).
-/

namespace EditImpact.Source

open Text

set_option autoImplicit false

/-- `added` makes no difference in front of `blank`. -/
def Loose (added blank : Char) : Prop :=
  (blank = '\n' ∧ added ∈ [' ', '\t', '\r', '\n']) ∨ (blank ∈ [' ', '\t'] ∧ added ∈ [' ', '\t'])

instance (added blank : Char) : Decidable (Loose added blank) := inferInstanceAs (Decidable (_ ∨ _))

/-- The blanks of a gap are among these. -/
def gapBlanks : List Char := [' ', '\t', '\r', '\n']

namespace Loose

variable {added blank : Char}

theorem added_mem (loose : Loose added blank) : added ∈ gapBlanks := by
  rcases loose with ⟨-, listed⟩ | ⟨-, listed⟩
  · exact listed
  · simp only [List.mem_cons, List.not_mem_nil, or_false] at listed
    rcases listed with rfl | rfl <;> decide

theorem blank_mem (loose : Loose added blank) : blank ∈ gapBlanks := by
  rcases loose with ⟨rfl, -⟩ | ⟨listed, -⟩
  · decide
  · simp only [List.mem_cons, List.not_mem_nil, or_false] at listed
    rcases listed with rfl | rfl <;> decide

theorem gap_blank {c : Char} (listed : c ∈ gapBlanks) : isBlank c = true := by
  have all : ∀ c ∈ gapBlanks, isBlank c = true := by decide
  exact all c listed

theorem added_blank (loose : Loose added blank) : isBlank added = true := gap_blank loose.added_mem

theorem blank_blank (loose : Loose added blank) : isBlank blank = true := gap_blank loose.blank_mem

theorem newline (loose : Loose added blank) (line : added = '\n') : blank = '\n' := by
  subst line
  rcases loose with ⟨newline, -⟩ | ⟨-, listed⟩
  · exact newline
  · simp at listed

end Loose

/-- Words that are read together with the blank behind them. -/
def strictWords : List String := ["where", "class"]

/-- What stands in front of a gap: no backslash, and a strict word only if the two blanks are the
same. -/
structure Free (before : List Char) (added blank : Char) : Prop where
  unescaped : before.getLast? ≠ some '\\'
  strict : ∀ word ∈ strictWords, word.toList <:+ before → added = blank

theorem Free.suffix {before own : List Char} {added blank : Char} (free : Free before added blank)
    (suffix : own <:+ before) : Free own added blank where
  unescaped := by
    rw [List.suffix_iff_eq_drop.mp suffix, List.getLast?_drop]
    split
    · simp
    · exact free.unescaped
  strict word listed ends := free.strict word listed (ends.trans suffix)

instance (before : List Char) (added blank : Char) : Decidable (Free before added blank) :=
  decidable_of_iff (before.getLast? ≠ some '\\' ∧
      ∀ word ∈ strictWords, word.toList <:+ before → added = blank)
    ⟨fun both => ⟨both.1, both.2⟩, fun free => ⟨free.unescaped, free.strict⟩⟩

theorem Free.behind_blank {c : Char} (listed : c ∈ gapBlanks) (before : List Char)
    (added blank : Char) : Free (before ++ [c]) added blank where
  unescaped last := by
    rw [List.getLast?_concat, Option.some.injEq] at last
    exact absurd listed (by rw [last]; decide)
  strict word listedWord ends := by
    have filled : ∀ word ∈ strictWords, word.toList.getLast?.any (· ∉ gapBlanks) = true := by
      decide
    obtain ⟨d, last, solid⟩ := (Option.any_eq_true _ _).mp (filled word listedWord)
    obtain ⟨front, whole⟩ := ends
    have same : some d = some c := by
      rw [← last, ← List.getLast?_concat (l := before), ← whole, List.getLast?_append, last]
      rfl
    exact absurd (Option.some.inj same ▸ listed) (of_decide_eq_true solid)

/-- A place of a text with a blank, and one more blank for it. -/
structure Gap where
  before : List Char
  added : Char
  blank : Char
  after : List Char
  loose : Loose added blank
  free : Free before added blank

namespace Gap

def narrow (gap : Gap) : List Char := gap.before ++ gap.blank :: gap.after

def wide (gap : Gap) : List Char := gap.before ++ gap.added :: gap.blank :: gap.after

end Gap

/-- The place in the wide text of a place in the narrow one, with a gap at `place`. -/
def shiftAt (place index : Nat) : Nat := if index ≤ place then index else index + 1

theorem shift_at_succ (place index : Nat) :
    shiftAt (place + 1) (index + 1) = shiftAt place index + 1 := by
  unfold shiftAt
  split <;> split <;> omega

def Gap.shift (gap : Gap) (index : Nat) : Nat := shiftAt gap.before.length index

/-- Equal, or with one more blank in a gap. -/
inductive Alike : List Char → List Char → Prop where
  | same (text : List Char) : Alike text text
  | wider (gap : Gap) : Alike gap.narrow gap.wide

namespace Alike

/-- What makes no difference in a gap makes none for alike texts. -/
theorem congr {Result : Type} {read : List Char → Result}
    (gaps : ∀ gap : Gap, read gap.narrow = read gap.wide) {text wide : List Char}
    (alike : Alike text wide) : read text = read wide := by
  cases alike with
  | same text => rfl
  | wider gap => exact gaps gap

theorem map {change : List Char → List Char}
    (gaps : ∀ gap : Gap, Alike (change gap.narrow) (change gap.wide)) {text wide : List Char}
    (alike : Alike text wide) : Alike (change text) (change wide) := by
  cases alike with
  | same text => exact .same _
  | wider gap => exact gaps gap

end Alike

/-- Alike, or both missing. -/
inductive OptionAlike : Option (List Char) → Option (List Char) → Prop where
  | none : OptionAlike none none
  | some {text wide : List Char} (alike : Alike text wide) : OptionAlike (some text) (some wide)

section Slices

namespace Gap

/-- What is left of a gap without the first characters in front of it. -/
def drop (gap : Gap) (count : Nat) : Gap where
  before := gap.before.drop count
  added := gap.added
  blank := gap.blank
  after := gap.after
  loose := gap.loose
  free := gap.free.suffix (List.drop_suffix count _)

/-- A gap with only so many characters behind it. -/
def take (gap : Gap) (count : Nat) : Gap := { gap with after := gap.after.take count }

end Gap

variable {gap : Gap} {index : Nat}

theorem drop_within (within : index ≤ gap.before.length) :
    gap.narrow.drop index = (gap.drop index).narrow ∧ gap.wide.drop index = (gap.drop index).wide :=
  ⟨List.drop_append_of_le_length within, List.drop_append_of_le_length within⟩

theorem drop_behind (behind : gap.before.length < index) :
    gap.wide.drop (index + 1) = gap.narrow.drop index := by
  obtain ⟨more, rfl⟩ := Nat.exists_eq_add_of_lt behind
  have narrow : gap.before.length + more + 1 = gap.before.length + (more + 1) := by omega
  have wide : gap.before.length + more + 1 + 1 = gap.before.length + (more + 2) := by omega
  rw [Gap.narrow, Gap.wide, wide, narrow, List.drop_length_add_append, List.drop_length_add_append]
  rfl

theorem take_within (within : index ≤ gap.before.length) :
    gap.wide.take index = gap.narrow.take index := by
  rw [Gap.narrow, Gap.wide, List.take_append_of_le_length within,
    List.take_append_of_le_length within]

theorem take_behind (behind : gap.before.length < index) :
    ∃ count, gap.narrow.take index = (gap.take count).narrow ∧
      gap.wide.take (index + 1) = (gap.take count).wide := by
  obtain ⟨more, rfl⟩ := Nat.exists_eq_add_of_lt behind
  have narrow : gap.before.length + more + 1 = gap.before.length + (more + 1) := by omega
  have wide : gap.before.length + more + 1 + 1 = gap.before.length + (more + 2) := by omega
  refine ⟨more, ?_⟩
  rw [Gap.narrow, Gap.wide, wide, narrow, List.take_length_add_append, List.take_length_add_append]
  exact ⟨rfl, rfl⟩

theorem drop_alike (gap : Gap) (index : Nat) :
    Alike (gap.narrow.drop index) (gap.wide.drop (gap.shift index)) := by
  unfold Gap.shift shiftAt
  split
  · next within =>
      obtain ⟨narrow, wide⟩ := drop_within within
      rw [narrow, wide]
      exact .wider _
  · next beyond =>
      rw [drop_behind (Nat.lt_of_not_le beyond)]
      exact .same _

theorem take_alike (gap : Gap) (index : Nat) :
    Alike (gap.narrow.take index) (gap.wide.take (gap.shift index)) := by
  unfold Gap.shift shiftAt
  split
  · next within =>
      rw [take_within within]
      exact .same _
  · next beyond =>
      obtain ⟨count, narrow, wide⟩ := take_behind (Nat.lt_of_not_le beyond)
      rw [narrow, wide]
      exact .wider _

end Slices

section Trimming

theorem trim_start_append_of {left right : List Char} (filled : trimStart left ≠ []) :
    trimStart (left ++ right) = trimStart left ++ right := by
  unfold trimStart at *
  rw [List.dropWhile_append, if_neg (by simpa using filled)]

theorem trim_start_append_blank {left : List Char} (blank : trimStart left = [])
    (right : List Char) : trimStart (left ++ right) = trimStart right := by
  unfold trimStart at *
  rw [List.dropWhile_append, if_pos (by simpa using blank)]

theorem trim_start_cons {c : Char} (blank : isBlank c = true) (rest : List Char) :
    trimStart (c :: rest) = trimStart rest := by
  simp [trimStart, blank]

theorem trim_start_alike (gap : Gap) : Alike (trimStart gap.narrow) (trimStart gap.wide) := by
  unfold Gap.narrow Gap.wide
  by_cases blank : trimStart gap.before = []
  · rw [trim_start_append_blank blank, trim_start_append_blank blank,
      trim_start_cons gap.loose.added_blank]
    exact .same _
  · rw [trim_start_append_of blank, trim_start_append_of blank]
    exact .wider ⟨trimStart gap.before, gap.added, gap.blank, gap.after, gap.loose,
      gap.free.suffix (List.dropWhile_suffix _)⟩

theorem trim_end_append_of {left right : List Char} (filled : trimEnd right ≠ []) :
    trimEnd (left ++ right) = left ++ trimEnd right := by
  have reversed : trimStart right.reverse ≠ [] := by
    intro empty
    exact filled (by rw [trimEnd]; exact congrArg List.reverse empty)
  rw [trimEnd, List.reverse_append]
  change (trimStart (right.reverse ++ left.reverse)).reverse = _
  rw [trim_start_append_of reversed, List.reverse_append, List.reverse_reverse]
  rfl

theorem trim_end_append_blank {right : List Char} (blank : trimEnd right = []) (left : List Char) :
    trimEnd (left ++ right) = trimEnd left := by
  have reversed : trimStart right.reverse = [] := by
    have empty : (trimStart right.reverse).reverse = [] := blank
    simpa using empty
  rw [trimEnd, List.reverse_append]
  change (trimStart (right.reverse ++ left.reverse)).reverse = _
  rw [trim_start_append_blank reversed]
  rfl

theorem trim_end_cons {c : Char} (blank : isBlank c = true) {rest : List Char} :
    trimEnd (c :: rest) = if trimEnd rest = [] then [] else c :: trimEnd rest := by
  change trimEnd ([c] ++ rest) = _
  split
  · next empty =>
      rw [trim_end_append_blank empty]
      simp [trimEnd, blank]
  · next filled => exact trim_end_append_of filled

theorem trim_end_alike (gap : Gap) : Alike (trimEnd gap.narrow) (trimEnd gap.wide) := by
  unfold Gap.narrow Gap.wide
  by_cases blank : trimEnd gap.after = []
  · have narrow : trimEnd (gap.blank :: gap.after) = [] := by
      rw [trim_end_cons gap.loose.blank_blank, if_pos blank]
    have wide : trimEnd (gap.added :: gap.blank :: gap.after) = [] := by
      rw [trim_end_cons gap.loose.added_blank, if_pos narrow]
    rw [trim_end_append_blank narrow, trim_end_append_blank wide]
    exact .same _
  · have narrow : trimEnd (gap.blank :: gap.after) = gap.blank :: trimEnd gap.after := by
      rw [trim_end_cons gap.loose.blank_blank, if_neg blank]
    have wide : trimEnd (gap.added :: gap.blank :: gap.after) =
        gap.added :: gap.blank :: trimEnd gap.after := by
      rw [trim_end_cons gap.loose.added_blank, narrow, if_neg (List.cons_ne_nil _ _)]
    rw [trim_end_append_of (by rw [narrow]; exact List.cons_ne_nil _ _),
      trim_end_append_of (by rw [wide]; exact List.cons_ne_nil _ _), narrow, wide]
    exact .wider ⟨gap.before, gap.added, gap.blank, trimEnd gap.after, gap.loose, gap.free⟩

theorem Alike.trim {text wide : List Char} (alike : Alike text wide) :
    Alike (Text.trim text) (Text.trim wide) :=
  Alike.map trim_end_alike (Alike.map trim_start_alike alike)

end Trimming

section Reading

theorem squeeze_gap (gap : Gap) (inBlank : Bool) :
    squeeze inBlank gap.narrow = squeeze inBlank gap.wide := by
  unfold Gap.narrow Gap.wide
  induction gap.before generalizing inBlank with
  | nil =>
      have blank := gap.loose.blank_blank
      have added := gap.loose.added_blank
      cases inBlank <;> simp [squeeze, blank, added]
  | cons c before induction =>
      simp only [List.cons_append, squeeze, induction]

/-- Collapsing does not see a gap. -/
theorem Alike.collapse {text wide : List Char} (alike : Alike text wide) :
    Source.collapse text = Source.collapse wide :=
  alike.congr fun gap => by rw [Source.collapse, squeeze_gap, Source.collapse]

theorem Alike.words {text wide : List Char} (alike : Alike text wide) :
    blankWords text = blankWords wide :=
  alike.congr fun gap => by
    rw [Gap.narrow, Gap.wide, blank_words_append gap.loose.blank_blank,
      blank_words_append gap.loose.added_blank]
    exact congrArg (blankWords gap.before ++ ·)
      (blank_words_append gap.loose.blank_blank [] gap.after).symm

/-- Without blanks. -/
def Solid (text : List Char) : Prop := ∀ c ∈ text, isBlank c = false

instance (text : List Char) : Decidable (Solid text) :=
  inferInstanceAs (Decidable (∀ c ∈ text, isBlank c = false))

/-- A solid text is found at the start of the narrow text iff it begins what stands before. -/
theorem after_start_gap {start : List Char} (solid : Solid start) (before : List Char) {c : Char}
    (blank : isBlank c = true) (rest : List Char) :
    afterStart? start (before ++ c :: rest) = (afterStart? start before).map (· ++ c :: rest) := by
  induction start generalizing before with
  | nil => rfl
  | cons d start induction =>
      cases before with
      | nil =>
          have other : d ≠ c := (ne_of_blank blank (solid d List.mem_cons_self)).symm
          simp [afterStart?, other]
      | cons e before =>
          simp only [List.cons_append, afterStart?]
          split
          · exact induction (fun f member => solid f (List.mem_cons_of_mem d member)) before
          · rfl

end Reading

end EditImpact.Source
