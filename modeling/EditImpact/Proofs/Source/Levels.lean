import EditImpact.Source.TopLevel
import EditImpact.Proofs.Text.Trim

/-!
# Reading a text piece by piece

Outside brackets and strings a reader knows nothing of what it read, but for the last character.
So a text that closes what it opens can be read on its own: cutting goes from search to search
(`cut_eq`), such texts joined by a separator, if they have none themselves, are what splitting gives
back (`cut_joined`), and a search goes through a text that holds nothing wanted to the text behind
it (`find_from_append`).
-/

namespace EditImpact.Source

open Text

set_option autoImplicit false

namespace Place

/-- The place after a text. -/
def through (place : Place) (text : List Char) : Place := text.foldl next place

@[simp] theorem through_nil (place : Place) : place.through [] = place := rfl

@[simp] theorem through_cons (place : Place) (c : Char) (text : List Char) :
    place.through (c :: text) = (place.next c).through text := rfl

@[simp] theorem through_append (place : Place) (left right : List Char) :
    place.through (left ++ right) = (place.through left).through right := by
  simp [through]

/-- Outside every bracket and string, after the given character. -/
def top (last : Option Char) : Place := ⟨0, none, last⟩

@[simp] theorem top_is_top (last : Option Char) : (top last).isTop = true := rfl

@[simp] theorem top_last (last : Option Char) : (top last).last = last := rfl

theorem eq_top_of_is_top {place : Place} (outside : place.isTop = true) :
    place = top place.last := by
  obtain ⟨depth, quote, last⟩ := place
  simp only [isTop, Bool.and_eq_true, beq_iff_eq, Option.isNone_iff_eq_none] at outside
  obtain ⟨rfl, rfl⟩ := outside
  rfl

@[simp] theorem next_last (place : Place) (c : Char) : (place.next c).last = some c := rfl

/-- A bracket that closes nothing is passed over, so the character before does not matter. -/
theorem next_top (last other : Option Char) (c : Char) : (top last).next c = (top other).next c := by
  simp [next, top, quoteAfter]

theorem through_top (last other : Option Char) {text : List Char} (filled : text ≠ []) :
    (top last).through text = (top other).through text := by
  cases text with
  | nil => exact absurd rfl filled
  | cons c rest => simp [next_top last other]

theorem next_plain (last : Option Char) {c : Char} (quote : isQuote c = false)
    (bracket : isOpener c = false) : (top last).next c = top (some c) := by
  simp only [next, top, quoteAfter, quote, bracket]
  simp

end Place

open Place

/-- No place of `text` is wanted, where `rest` follows the text. -/
def Misses (wanted : Wanted) : Place → List Char → List Char → Prop
  | _, [], _ => True
  | place, c :: text, rest =>
    (place.isTop && !isQuote c && wanted place.last c (text ++ rest)) = false ∧
      Misses wanted (place.next c) text rest

theorem find_from_eq_none_iff (wanted : Wanted) (place : Place) (text : List Char) :
    findFrom wanted place text = none ↔ Misses wanted place text [] := by
  induction text generalizing place with
  | nil => simp [findFrom, Misses]
  | cons c rest induction =>
      simp only [findFrom, Misses, List.append_nil]
      by_cases hit : (place.isTop && !isQuote c && wanted place.last c rest) = true
      · simp [hit]
      · simp [hit, induction]

theorem find_from_append {wanted : Wanted} {place : Place} {text rest : List Char}
    (missed : Misses wanted place text rest) :
    findFrom wanted place (text ++ rest) =
      (findFrom wanted (place.through text) rest).map (· + text.length) := by
  induction text generalizing place with
  | nil => simp
  | cons c text induction =>
      obtain ⟨here, later⟩ := missed
      rw [List.cons_append, findFrom, here]
      simp only [Bool.false_eq_true, if_false, through_cons, induction later, Option.map_map,
        List.length_cons]
      rfl

theorem find_from_lt {wanted : Wanted} {place : Place} {text : List Char} {index : Nat}
    (found : findFrom wanted place text = some index) : index < text.length := by
  induction text generalizing place index with
  | nil => cases found
  | cons c rest induction =>
      rw [findFrom] at found
      split at found
      · cases found
        exact Nat.zero_lt_succ _
      · obtain ⟨later, there, rfl⟩ := Option.map_eq_some_iff.mp found
        exact Nat.succ_lt_succ (induction there)

/-- A search that does not look into the text behind ends in the first part or goes on in the
second. -/
theorem find_from_append_or {wanted : Wanted} {rest : List Char}
    (near : ∀ last c text, wanted last c (text ++ rest) = wanted last c text) (place : Place)
    (text : List Char) :
    findFrom wanted place (text ++ rest) = (findFrom wanted place text).or
      ((findFrom wanted (place.through text) rest).map (· + text.length)) := by
  induction text generalizing place with
  | nil => simp [findFrom]
  | cons c text induction =>
      rw [List.cons_append, findFrom, findFrom, near]
      split
      · rfl
      · rw [induction, through_cons, Option.map_or, Option.map_map]
        rfl

theorem find_from_top {wanted : Wanted} (last other : Option Char)
    (ahead : ∀ before c rest, wanted before c rest = wanted none c rest) (text : List Char) :
    findFrom wanted (top last) text = findFrom wanted (top other) text := by
  cases text with
  | nil => rfl
  | cons c text =>
      rw [findFrom, findFrom, ahead, ahead (top other).last, next_top last other]
      rfl

theorem misses_append {wanted : Wanted} {place : Place} {left right rest : List Char}
    (first : Misses wanted place left (right ++ rest))
    (second : Misses wanted (place.through left) right rest) :
    Misses wanted place (left ++ right) rest := by
  induction left generalizing place with
  | nil => exact second
  | cons c left induction =>
      obtain ⟨here, later⟩ := first
      refine ⟨?_, induction later second⟩
      change (place.isTop && !isQuote c && wanted place.last c (left ++ right ++ rest)) = false
      rw [List.append_assoc]
      exact here

theorem misses_of_append {wanted : Wanted} {place : Place} {left right rest : List Char}
    (both : Misses wanted place (left ++ right) rest) :
    Misses wanted (place.through left) right rest := by
  induction left generalizing place with
  | nil => exact both
  | cons c left induction => exact induction both.2

theorem misses_of_forall {wanted : Wanted} {text : List Char} (place : Place) (rest : List Char)
    (unwanted : ∀ c ∈ text, ∀ last behind, wanted last c behind = false) :
    Misses wanted place text rest := by
  induction text generalizing place with
  | nil => trivial
  | cons c text induction =>
      refine ⟨?_, induction _ fun d member => unwanted d (List.mem_cons_of_mem c member)⟩
      simp [unwanted c List.mem_cons_self]

theorem misses_of_imp {wanted other : Wanted} {place : Place} {text rest : List Char}
    (weaker : ∀ last c behind, wanted last c behind = true → other last c behind = true)
    (missed : Misses other place text rest) : Misses wanted place text rest := by
  induction text generalizing place with
  | nil => trivial
  | cons c text induction =>
      obtain ⟨here, later⟩ := missed
      refine ⟨?_, induction later⟩
      rw [Bool.eq_false_iff] at here ⊢
      intro hit
      apply here
      simp only [Bool.and_eq_true] at hit ⊢
      exact ⟨hit.1, weaker _ _ _ hit.2⟩

/-- Where only the characters themselves matter, what follows does not. -/
theorem misses_any_rest {chars : List Char} {place : Place} {text : List Char}
    (rest other : List Char) (missed : Misses (isAnyOf chars) place text rest) :
    Misses (isAnyOf chars) place text other := by
  induction text generalizing place with
  | nil => trivial
  | cons c text induction => exact ⟨missed.1, induction missed.2⟩

theorem misses_any_top {chars text rest : List Char} (last other : Option Char)
    (missed : Misses (isAnyOf chars) (top last) text rest) :
    Misses (isAnyOf chars) (top other) text rest := by
  cases text with
  | nil => trivial
  | cons c text =>
      obtain ⟨here, later⟩ := missed
      rw [next_top last other] at later
      exact ⟨here, later⟩

/-- A text that closes every bracket and string it opens, and outside them has none of the given
characters. -/
structure Clear (chars text : List Char) : Prop where
  closed : (Place.start.through text).isTop = true
  without : findTop (isAnyOf chars) text = none

instance (chars text : List Char) : Decidable (Clear chars text) :=
  decidable_of_iff
    ((Place.start.through text).isTop = true ∧ findTop (isAnyOf chars) text = none)
    ⟨fun both => ⟨both.1, both.2⟩, fun both => ⟨both.1, both.2⟩⟩

namespace Clear

variable {chars : List Char}

theorem through {text : List Char} (clear : Clear chars text) (last : Option Char) :
    ∃ final, (top last).through text = top final := by
  cases text with
  | nil => exact ⟨last, rfl⟩
  | cons c rest =>
      have ended := eq_top_of_is_top clear.closed
      change (top none).through (c :: rest) = _ at ended
      exact ⟨_, (through_top last none (List.cons_ne_nil c rest)).trans ended⟩

theorem misses {text : List Char} (clear : Clear chars text) (last : Option Char)
    (rest : List Char) : Misses (isAnyOf chars) (top last) text rest :=
  misses_any_rest [] rest (misses_any_top none last
    ((find_from_eq_none_iff (isAnyOf chars) .start text).mp clear.without))

theorem of_top {text : List Char} {last final : Option Char}
    (closed : (top last).through text = top final)
    (missed : Misses (isAnyOf chars) (top last) text []) : Clear chars text where
  closed := by
    cases text with
    | nil => rfl
    | cons c rest =>
        change ((top none).through (c :: rest)).isTop = true
        rw [through_top none last (List.cons_ne_nil c rest), closed]
        rfl
  without :=
    (find_from_eq_none_iff (isAnyOf chars) .start text).mpr (misses_any_top last none missed)

theorem nil : Clear chars [] := ⟨rfl, rfl⟩

theorem mono {more text : List Char} (clear : Clear more text)
    (fewer : ∀ c ∈ chars, c ∈ more) : Clear chars text where
  closed := clear.closed
  without := by
    rw [findTop, find_from_eq_none_iff]
    apply misses_of_imp _ (clear.misses none [])
    intro last c behind hit
    simp only [isAnyOf, List.contains_iff_mem] at hit ⊢
    exact fewer c hit

theorem append {left right : List Char} (first : Clear chars left) (second : Clear chars right) :
    Clear chars (left ++ right) := by
  obtain ⟨middle, reached⟩ := first.through none
  obtain ⟨final, ended⟩ := second.through middle
  have both : (top none).through (left ++ right) = top final := by
    rw [through_append, reached, ended]
  apply of_top both
  · apply misses_append (first.misses none _)
    rw [reached]
    exact second.misses middle []

theorem of_append {left right : List Char} (first : Clear chars left)
    (both : Clear chars (left ++ right)) : Clear chars right := by
  obtain ⟨middle, reached⟩ := first.through none
  obtain ⟨final, ended⟩ := both.through none
  rw [through_append, reached] at ended
  apply of_top ended
  have missed := misses_of_append (both.misses none [])
  rwa [reached] at missed

theorem of_plain {text : List Char}
    (plain : ∀ c ∈ text, isQuote c = false ∧ isOpener c = false ∧ c ∉ chars) :
    Clear chars text := by
  induction text with
  | nil => exact nil
  | cons c rest induction =>
      obtain ⟨quote, opener, other⟩ := plain c List.mem_cons_self
      have one : Clear chars [c] := by
        have passed : (top none).through [c] = top (some c) := next_plain none quote opener
        exact of_top passed ⟨by simp [isAnyOf, other], trivial⟩
      exact one.append (induction fun d member => plain d (List.mem_cons_of_mem c member))

end Clear

/-- A text that can stand between commas. -/
abbrev Level : List Char → Prop := Clear [',']

section Separators

variable {separator : Char}

theorem cut_top (last other : Option Char) (text : List Char) :
    cutFrom separator (top last) text = cutFrom separator (top other) text := by
  cases text with
  | nil => rfl
  | cons c text =>
      rw [cutFrom, cutFrom, next_top last other]
      rfl

theorem is_any_of_one (last : Option Char) (c : Char) (rest : List Char) :
    isAnyOf [separator] last c rest = (c == separator) := by
  simp only [isAnyOf, List.contains_cons, List.contains_nil, Bool.or_false]

/-- Cutting is one search after the other: the first piece ends at the first separator outside
brackets and strings, and the rest is cut on its own. -/
theorem cut_eq (place : Place) (text : List Char) :
    cutFrom separator place text =
      match findFrom (isAnyOf [separator]) place text with
      | none => [text]
      | some index =>
          text.take index :: cutFrom separator (top none) (text.drop (index + 1)) := by
  induction text generalizing place with
  | nil => rfl
  | cons c rest induction =>
      rw [cutFrom, findFrom, is_any_of_one]
      by_cases hit : (place.isTop && !isQuote c && c == separator) = true
      · -- only the character before is known behind a separator, and it does not matter there
        have outside : place.isTop = true := by
          simp only [Bool.and_eq_true] at hit
          exact hit.1.1
        have behind : { place with last := some c } = top (some c) := by
          rw [eq_top_of_is_top outside]
          rfl
        rw [if_pos hit, if_pos hit, behind, cut_top (some c) none]
        rfl
      · rw [if_neg hit, if_neg hit, induction]
        cases findFrom (isAnyOf [separator]) (place.next c) rest with
        | none => rfl
        | some index => rfl

/-- A text without separators is one piece, up to the separator behind it. -/
theorem cut_level (plain : isQuote separator = false) {piece : List Char}
    (level : Clear [separator] piece) (last : Option Char) :
    cutFrom separator (top last) piece = [piece] ∧
      ∀ rest, cutFrom separator (top last) (piece ++ separator :: rest) =
        piece :: cutFrom separator (top (some separator)) rest := by
  have missed := level.misses last
  constructor
  · have nowhere := (find_from_eq_none_iff _ (top last) piece).mpr (missed [])
    rw [cut_eq, nowhere]
  · intro rest
    obtain ⟨final, ended⟩ := level.through last
    have found : findFrom (isAnyOf [separator]) (top last) (piece ++ separator :: rest) =
        some piece.length := by
      rw [find_from_append (missed (separator :: rest)), ended]
      simp [findFrom, plain, is_any_of_one]
    rw [cut_eq, found, cut_top (some separator) none]
    simp

theorem cut_joined (plain : isQuote separator = false) {pieces : List (List Char)}
    (filled : pieces ≠ []) (level : ∀ piece ∈ pieces, Clear [separator] piece)
    (last : Option Char) :
    cutFrom separator (top last) (joinWith [separator] pieces) = pieces := by
  induction pieces generalizing last with
  | nil => exact absurd rfl filled
  | cons piece pieces induction =>
      have here := cut_level plain (level piece List.mem_cons_self) last
      cases pieces with
      | nil => exact here.1
      | cons next pieces =>
          rw [joinWith, List.append_assoc, List.singleton_append, here.2,
            induction (List.cons_ne_nil next pieces)
              (fun other member => level other (List.mem_cons_of_mem piece member))]

end Separators

theorem comma_not_blank : isBlank ',' = false := by decide

theorem blank_plain {c : Char} (blank : isBlank c = true) :
    isQuote c = false ∧ isOpener c = false := by
  have other (d : Char) (filled : isBlank d = false) : c ≠ d := ne_of_blank blank filled
  simp only [isQuote, isOpener, Bool.or_eq_false_iff, beq_eq_false_iff_ne]
  exact ⟨⟨⟨other _ (by decide), other _ (by decide)⟩, other _ (by decide)⟩,
    ⟨⟨other _ (by decide), other _ (by decide)⟩, other _ (by decide)⟩, other _ (by decide)⟩

theorem Clear.of_blank {chars blanks : List Char} (blank : AllBlank blanks)
    (filled : ∀ c ∈ chars, isBlank c = false) : Clear chars blanks :=
  .of_plain fun c member =>
    have plain := blank_plain (blank c member)
    ⟨plain.1, plain.2, fun listed => ne_of_blank (blank c member) (filled c listed) rfl⟩

/-- What has no comma and follows a text goes to its last piece. -/
theorem cut_append {added : List Char} (whole : ',' ∉ added) (place : Place) (text : List Char) :
    ∃ pieces piece, cutFrom ',' place text = pieces ++ [piece] ∧
      cutFrom ',' place (text ++ added) = pieces ++ [piece ++ added] := by
  induction text generalizing place with
  | nil =>
      refine ⟨[], [], rfl, ?_⟩
      induction added generalizing place with
      | nil => rfl
      | cons c added induction =>
          have comma : (c == ',') = false := by
            rw [beq_eq_false_iff_ne]
            rintro rfl
            exact whole List.mem_cons_self
          have later := induction (fun member => whole (List.mem_cons_of_mem c member)) (place.next c)
          simp only [List.nil_append] at later
          simp [cutFrom, comma, later]
  | cons c text induction =>
      simp only [List.cons_append, cutFrom]
      split
      · obtain ⟨pieces, piece, short, long⟩ := induction { place with last := some c }
        exact ⟨[] :: pieces, piece, by rw [short]; rfl, by rw [long]; rfl⟩
      · obtain ⟨pieces, piece, short, long⟩ := induction (place.next c)
        rw [short, long]
        cases pieces with
        | nil => exact ⟨[], c :: piece, rfl, rfl⟩
        | cons first pieces => exact ⟨(c :: first) :: pieces, piece, rfl, rfl⟩

theorem cut_eq_cons (place : Place) (text : List Char) :
    ∃ piece pieces, cutFrom ',' place text = piece :: pieces := by
  obtain ⟨pieces, piece, cut, -⟩ := cut_append (by simp : ',' ∉ ([] : List Char)) place text
  cases pieces with
  | nil => exact ⟨piece, [], cut⟩
  | cons first pieces => exact ⟨first, pieces ++ [piece], cut⟩

theorem cut_blanks_before {blanks : List Char} (blank : AllBlank blanks) (last : Option Char)
    (text : List Char) :
    (cutFrom ',' (top last) (blanks ++ text)).map trim = (cutFrom ',' (top last) text).map trim := by
  induction blanks generalizing last with
  | nil => rfl
  | cons c blanks induction =>
      have here := blank c List.mem_cons_self
      obtain ⟨quote, opener⟩ := blank_plain here
      have comma : c ≠ ',' := ne_of_blank here comma_not_blank
      have later := induction (fun d member => blank d (List.mem_cons_of_mem c member)) (some c)
      rw [cut_top (some c) last text] at later
      obtain ⟨piece, pieces, cut⟩ := cut_eq_cons (top (some c)) (blanks ++ text)
      have single : AllBlank [c] := by simpa [AllBlank] using here
      have trimmed : trim (c :: piece) = trim piece := trim_blanks_append single piece
      rw [← later, List.cons_append, cutFrom, next_plain last quote opener, cut]
      simp [comma, trimmed]

/-- Blanks around a list of pieces belong to no piece. -/
theorem split_around {before after : List Char} (blankBefore : AllBlank before)
    (blankAfter : AllBlank after) (text : List Char) :
    splitTop ',' (before ++ text ++ after) = splitTop ',' text := by
  have comma : ',' ∉ after := by
    intro member
    have blank := blankAfter ',' member
    rw [comma_not_blank] at blank
    cases blank
  obtain ⟨pieces, piece, short, long⟩ := cut_append comma (top none) text
  have trimmed : trim (piece ++ after) = trim piece := trim_append_blanks blankAfter piece
  have same : (cutFrom ',' .start (before ++ text ++ after)).map trim =
      (cutFrom ',' .start text).map trim := by
    change (cutFrom ',' (top none) (before ++ text ++ after)).map trim =
      (cutFrom ',' (top none) text).map trim
    rw [List.append_assoc, cut_blanks_before blankBefore, long, short]
    simp [trimmed]
  rw [splitTop, same, splitTop]

end EditImpact.Source
