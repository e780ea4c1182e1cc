import EditImpact.Impact.Mention
import EditImpact.Proofs.Pattern.Readings
import Mathlib.Data.List.Infix

/-!
# Uses that are taken for definitions

A file counts as one that refers to a symbol if it mentions the symbol without defining it. Behind
the word `return` nothing is defined, but one of the definition patterns looks past it. A symbol
that only stands behind `return` is a reference unless an access word stands further ahead in the
same statement of the same line and a parenthesis follows the symbol (`returned_symbol_found_iff`).
-/

namespace EditImpact.Impact

open Pattern Text

set_option autoImplicit false

/-- The word `return` and a space stand before this place, and no name goes on behind it. -/
structure Returned (before after : List Char) : Prop where
  behind : ∃ earlier, before = earlier ++ "return ".toList ∧
    ∀ c, earlier.getLast? = some c → isWord c = false
  ends : ∀ c, after.head? = some c → isWord c = false ∧ c ≠ '$'

/-- A symbol stands alone behind the word `return` and a space, wherever it occurs. -/
def OnlyReturned (symbol content : List Char) : Prop :=
  ∀ before after, content = before ++ (symbol ++ after) → Returned before after

def visibilities : List String := ["public", "private", "protected", "internal"]

/-- The symbol and a parenthesis stand behind an access word. Blanks may follow the access word, but
then neither the line nor the statement ends before the symbol, and nothing is assigned. -/
inductive BehindVisibility (symbol content : List Char) : Prop where
  | intro (before : List Char) (word : String) (spaces gap blanks after : List Char)
      (text : content = before ++ (word.toList ++ (spaces ++ (gap ++ (symbol ++ (blanks ++
        '(' :: after))))))
      (listed : word ∈ visibilities) (starts : ∀ c, before.getLast? = some c → isWord c = false)
      (spaced : spaces ≠ []) (blank : AllBlank spaces)
      (goesOn : ∀ c ∈ gap, c ≠ '\n' ∧ c ≠ ';' ∧ c ≠ '=') (blankToo : AllBlank blanks)
      (named : symbol.head?.any isWord = true)

variable {symbol content : List Char}

/-! ## Nothing is defined behind `return` -/

/-- A word that does not end in a blank and cannot end where `return` ends. -/
def Apart (word : List Char) : Prop :=
  word.getLast?.any (!isBlank ·) = true ∧ ¬word <:+ "return".toList ∧ ¬"return".toList <:+ word

instance (word : List Char) : Decidable (Apart word) :=
  inferInstanceAs (Decidable (_ ∧ _ ∧ _))

/-- No blanks end in a character that is not blank. -/
theorem eq_nil_of_ends {before more after : List Char} {c : Char} (blank : AllBlank more)
    (text : before ++ more = after ++ [c]) (filled : isBlank c = false) : more = [] := by
  rcases List.eq_nil_or_concat' more with nothing | ⟨front, d, rfl⟩
  · exact nothing
  · rw [← List.append_assoc] at text
    obtain rfl : d = c := by simpa using (List.append_inj' text rfl).2
    rw [blank d (by simp)] at filled
    cases filled

theorem not_behind_return {start word blanks earlier : List Char} (apart : Apart word)
    (blank : AllBlank blanks) : start ++ (word ++ blanks) ≠ earlier ++ "return ".toList := by
  obtain ⟨filled, shorter, longer⟩ := apart
  obtain ⟨c, ends, filled⟩ := (Option.any_eq_true _ _).mp filled
  rw [Bool.not_eq_true'] at filled
  intro same
  have split : (start ++ word) ++ blanks = (earlier ++ "return".toList) ++ [' '] := by
    rw [List.append_assoc, same, List.append_assoc]
    rfl
  rcases List.eq_nil_or_concat' blanks with rfl | ⟨more, d, rfl⟩
  · have last := congrArg List.getLast? split
    rw [List.append_nil, List.getLast?_append, ends, List.getLast?_concat] at last
    cases last
    cases filled
  · -- the last blank is the space, and what stands before it ends like the word
    rw [← List.append_assoc] at split
    have before : (start ++ word) ++ more = earlier ++ "return".toList :=
      (List.append_inj' split rfl).1
    have ends : (start ++ word) ++ more = (earlier ++ "retur".toList) ++ ['n'] := by
      rw [before, List.append_assoc]
      rfl
    have moreBlank : AllBlank more := fun e member => blank e (List.mem_append_left _ member)
    rw [eq_nil_of_ends moreBlank ends (by decide), List.append_nil] at before
    have ending : word <:+ earlier ++ "return".toList := ⟨start, before⟩
    exact (List.suffix_or_suffix_of_suffix ending (List.suffix_append _ _)).elim shorter longer

/-- Whatever the pattern reads ends behind such a word, with nothing but blanks in between. -/
def Leads (front : Pattern) : Prop :=
  ∀ (last : Option Char) (read rest : List Char), front.Takes last read rest →
    ∃ start word blanks, read = start ++ (word ++ blanks) ∧ Apart word ∧ AllBlank blanks

namespace Leads

variable {first second : Pattern}

theorem lit {word : String} (apart : Apart word.toList) : Leads (lit word) := by
  intro last read rest takes
  rw [takes_lit] at takes
  exact ⟨[], word.toList, [], by simp [takes], apart, all_blank_nil⟩

theorem any_word {words : List String} (some' : words ≠ [])
    (apart : ∀ word ∈ words, Apart word.toList) : Leads (anyWord words) := by
  intro last read rest takes
  obtain ⟨word, listed, rfl⟩ := (takes_any_word some').mp takes
  exact ⟨[], word.toList, [], by simp, apart word listed, all_blank_nil⟩

theorem behind (leads : Leads second) : Leads (first ++ second) := by
  rintro last _ rest ⟨front, back, rfl, -, takes⟩
  obtain ⟨start, word, blanks, rfl, apart, blank⟩ := leads _ _ _ takes
  exact ⟨front ++ start, word, blanks, (List.append_assoc ..).symm, apart, blank⟩

theorem before_blanks (leads : Leads first)
    (blank : ∀ {last read rest}, second.Takes last read rest → AllBlank read) :
    Leads (first ++ second) := by
  rintro last _ rest ⟨_, back, rfl, takes, more⟩
  obtain ⟨start, word, blanks, rfl, apart, before⟩ := leads _ _ _ takes
  exact ⟨start, word, blanks ++ back, by simp, apart, all_blank_append before (blank more)⟩

theorem blanks (leads : Leads first) : Leads (first ++ blanks) :=
  leads.before_blanks takes_blanks.mp

theorem blanks1 (leads : Leads first) : Leads (first ++ blanks1) :=
  leads.before_blanks fun takes => (takes_blanks1.mp takes).2

theorem opt (leads : Leads first) (leadsToo : Leads second) : Leads (first ++ opt second) := by
  rintro last _ rest ⟨front, back, rfl, takes, more⟩
  rcases takes_opt.mp more with rfl | present
  · rw [List.append_nil]
    exact leads _ _ _ takes
  · exact leadsToo.behind _ _ _ ⟨front, back, rfl, takes, present⟩

end Leads

theorem absent_of_front {first second : Pattern} {text : List Char}
    (absent : first.occurs text = false) : (first ++ second).occurs text = false := by
  rw [Bool.eq_false_iff] at absent ⊢
  intro occurs
  obtain ⟨before, _, after, rfl, front, back, rfl, takes, -⟩ := occurs_iff.mp occurs
  exact absent (occurs_iff.mpr ⟨before, front, back ++ after, by simp, takes⟩)

/-- A definition whose front leads up to the name does not define what only stands behind
`return`. -/
theorem not_defined (returned : OnlyReturned symbol content) {front : Pattern}
    (leads : Leads front) : (front ++ chars symbol).occurs content = false := by
  apply Bool.eq_false_iff.mpr
  intro occurs
  obtain ⟨before, _, after, text, _, name, rfl, takes, named⟩ := occurs_iff.mp occurs
  obtain ⟨start, word, blanks, rfl, apart, blank⟩ := leads _ _ _ takes
  rw [takes_chars] at named
  subst named
  have occurrence : content = (before ++ (start ++ (word ++ blanks))) ++ (name ++ after) := by
    rw [text]
    simp only [List.append_assoc]
  obtain ⟨⟨earlier, same, -⟩, -⟩ := returned _ _ occurrence
  rw [← List.append_assoc] at same
  exact not_behind_return apart blank same

/-! ## What an access word hides -/

section Visibility

theorem last_of_returned {before after : List Char} (returned : Returned before after) :
    before.getLast? = some ' ' := by
  obtain ⟨⟨earlier, rfl, -⟩, -⟩ := returned
  rw [List.getLast?_append]
  rfl

theorem symbol_ne_nil (returned : OnlyReturned symbol content) : symbol ≠ [] := by
  rintro rfl
  obtain ⟨⟨earlier, same, -⟩, -⟩ := returned [] content rfl
  exact absurd (List.append_eq_nil_iff.mp same.symm).2 (by decide)

theorem takes_no_stop {last : Option Char} {read rest : List Char} :
    (anyBut "\n;=").Takes last read rest ↔ ∀ c ∈ read, c ≠ '\n' ∧ c ≠ ';' ∧ c ≠ '=' := by
  rw [anyBut, takes_many]
  apply forall₂_congr
  intro c _
  simp [noneOf, CharSet.contains, CharItem.holds, @eq_comm _ c]

theorem visibility_begins {word : String} (listed : word ∈ visibilities) (more : List Char) :
    (word.toList ++ more).head?.any isWord = true := by
  have begins : ∀ word ∈ visibilities, word.toList.head?.any isWord = true := by decide
  have here := begins word listed
  cases text : word.toList with
  | nil =>
      rw [text] at here
      cases here
  | cons c rest => simpa [text] using here

/-- An access word and what may stand between it and the symbol. -/
def visibilityFront : Pattern :=
  wordEdge ++ anyWord visibilities ++ blanks1 ++ anyBut "\n;="

theorem takes_visibility_front {last : Option Char} {read rest : List Char} :
    visibilityFront.Takes last read rest ↔ ∃ word ∈ visibilities, ∃ spaces gap,
      read = word.toList ++ (spaces ++ gap) ∧ last.any isWord = false ∧
        (spaces ≠ [] ∧ AllBlank spaces) ∧ ∀ c ∈ gap, c ≠ '\n' ∧ c ≠ ';' ∧ c ≠ '=' := by
  simp only [visibilityFront, takes_append, takes_word_edge, takes_blanks1, takes_no_stop,
    takes_any_word (show visibilities ≠ [] by decide)]
  constructor
  · rintro ⟨_, gap, rfl, ⟨_, spaces, rfl, ⟨_, _, rfl, ⟨rfl, edge⟩, word, listed, rfl⟩, blank⟩,
      goesOn⟩
    rw [visibility_begins listed] at edge
    exact ⟨word, listed, spaces, gap, by simp, by simpa using edge, blank, goesOn⟩
  · rintro ⟨word, listed, spaces, gap, rfl, starts, blank, goesOn⟩
    refine ⟨word.toList ++ spaces, gap, by simp, ⟨word.toList, spaces, rfl,
      ⟨[], word.toList, rfl, ⟨rfl, ?_⟩, word, listed, rfl⟩, blank⟩, goesOn⟩
    rw [visibility_begins listed, starts]
    decide

/-- A symbol behind an access word, with a parenthesis behind it. -/
def visibilityPattern (symbol : List Char) : Pattern :=
  visibilityFront ++ wordEdge ++ chars symbol ++ blanks ++ lit "("

theorem takes_visibility_pattern {last : Option Char} {read rest : List Char} :
    (visibilityPattern symbol).Takes last read rest ↔ ∃ front blanks,
      read = front ++ (symbol ++ (blanks ++ ['('])) ∧
        visibilityFront.Takes last front (symbol ++ (blanks ++ '(' :: rest)) ∧
        (front.getLast?.or last).any isWord ≠ (symbol ++ (blanks ++ '(' :: rest)).head?.any isWord ∧
        AllBlank blanks := by
  simp only [visibilityPattern, takes_append, takes_word_edge, takes_chars, takes_blanks, takes_lit]
  constructor
  · rintro ⟨_, _, rfl, ⟨_, blanks, rfl, ⟨_, _, rfl, ⟨front, _, rfl, takes, rfl, edge⟩, rfl⟩, blank⟩,
      rfl⟩
    exact ⟨front, blanks, by simp, takes, edge, blank⟩
  · rintro ⟨front, blanks, rfl, takes, edge, blank⟩
    exact ⟨front ++ symbol ++ blanks, ['('], by simp, ⟨front ++ symbol, blanks, rfl,
      ⟨front, symbol, rfl, ⟨front, [], by simp, takes, rfl, edge⟩, rfl⟩, blank⟩, rfl⟩

/-- The character in front of the symbol is a space, so a word edge there is the start of a word. -/
theorem edge_iff (returned : OnlyReturned symbol content) {before front more : List Char}
    (text : content = before ++ (front ++ (symbol ++ more))) :
    (front.getLast?.or before.getLast?).any isWord ≠ (symbol ++ more).head?.any isWord ↔
      symbol.head?.any isWord = true := by
  rw [← List.append_assoc] at text
  have space := last_of_returned (returned _ _ text)
  obtain ⟨c, rest, rfl⟩ := List.exists_cons_of_ne_nil (symbol_ne_nil returned)
  rw [List.getLast?_append] at space
  have notWord : isWord ' ' = false := by decide
  simp [space, notWord]

theorem occurs_behind_visibility_iff (returned : OnlyReturned symbol content) :
    (visibilityPattern symbol).occurs content = true ↔ BehindVisibility symbol content := by
  rw [occurs_iff]
  constructor
  · rintro ⟨before, read, after, text, takes⟩
    obtain ⟨front, blanks, rfl, takes, edge, blank⟩ := takes_visibility_pattern.mp takes
    obtain ⟨word, listed, spaces, gap, rfl, starts, ⟨spaced, spacesBlank⟩, goesOn⟩ :=
      takes_visibility_front.mp takes
    have named := (edge_iff returned (by rw [text]; simp)).mp edge
    refine .intro before word spaces gap blanks after ?_ listed ?_ spaced spacesBlank goesOn blank
      named
    · rw [text]
      simp
    · intro c last
      simpa [last] using starts
  · rintro ⟨before, word, spaces, gap, blanks, after, text, listed, starts, spaced, spacesBlank,
      goesOn, blank, named⟩
    refine ⟨before, (word.toList ++ (spaces ++ gap)) ++ (symbol ++ (blanks ++ ['('])), after, ?_,
      takes_visibility_pattern.mpr ⟨word.toList ++ (spaces ++ gap), blanks, rfl, ?_, ?_, blank⟩⟩
    · rw [text]
      simp
    · refine takes_visibility_front.mpr ⟨word, listed, spaces, gap, rfl, ?_, ⟨spaced, spacesBlank⟩,
        goesOn⟩
      cases last : before.getLast? with
      | none => rfl
      | some c => exact starts c last
    · exact (edge_iff returned (by rw [text]; simp)).mpr named

end Visibility

/-! ## References -/

theorem mentions_returned (returned : OnlyReturned symbol content)
    (occurs : ∃ before after, content = before ++ (symbol ++ after)) :
    mentions symbol content = true := by
  obtain ⟨before, after, text⟩ := occurs
  have here := returned before after text
  have space := last_of_returned here
  have apart : (Pattern.setOf [.word] "$").contains ' ' = false := by decide
  apply occurs_iff.mpr
  refine ⟨before, symbol, after, text, symbol, [], by simp, ⟨[], symbol, rfl, ⟨rfl, ?_⟩,
    takes_chars.mpr rfl⟩, rfl, ?_⟩
  · intro c last
    rw [space] at last
    cases last
    exact apart
  · intro c head
    obtain ⟨notWord, notDollar⟩ := here.ends c head
    simp [Pattern.setOf, CharSet.contains, CharItem.holds, notWord, notDollar.symm]

theorem other_definitions_absent (returned : OnlyReturned symbol content) :
    ∀ pattern ∈ (definitionPatterns symbol).dropLast, pattern.occurs content = false := by
  have spelled {word : String} (apart : Apart word.toList) :
      (wordEdge ++ lit word ++ blanks1 ++ chars symbol).occurs content = false :=
    not_defined returned (Leads.lit apart).behind.blanks1
  have declares : Leads (anyWord ["const", "let", "var"]) := Leads.any_word (by decide) (by decide)
  have star : Leads (lit "*") := Leads.lit (by decide)
  have closes : Leads (lit ")") := Leads.lit (by decide)
  have function' : Leads (lit "function") := Leads.lit (by decide)
  have func : Leads (lit "func") := Leads.lit (by decide)
  simp only [definitionPatterns, List.dropLast, List.forall_mem_cons]
  refine ⟨?starred, ?classed, ?declared, ?defined, ?received, ?short, nofun⟩
  case starred =>
    exact absent_of_front (absent_of_front
      (not_defined returned (function'.behind.blanks.opt star).blanks))
  case classed => exact absent_of_front (spelled (by decide))
  case declared =>
    exact absent_of_front (absent_of_front (absent_of_front
      (not_defined returned declares.behind.blanks1)))
  case defined => exact absent_of_front (absent_of_front (spelled (by decide)))
  case received =>
    exact absent_of_front (absent_of_front
      (not_defined returned (func.behind.blanks1.opt closes.behind.blanks)))
  case short => exact absent_of_front (absent_of_front (spelled (by decide)))

theorem defined_iff (returned : OnlyReturned symbol content) :
    (definitionPatterns symbol).any (·.occurs content) = true ↔
      BehindVisibility symbol content := by
  have split : definitionPatterns symbol =
      (definitionPatterns symbol).dropLast ++ [visibilityPattern symbol] := rfl
  have others : (definitionPatterns symbol).dropLast.any (·.occurs content) = false := by
    apply List.any_eq_false.mpr
    intro pattern listed
    rw [other_definitions_absent returned pattern listed]
    decide
  rw [split, List.any_append, others, Bool.false_or, List.any_cons, List.any_nil, Bool.or_false,
    occurs_behind_visibility_iff returned]

theorem Returned.of_ends {before after : List Char} (earlier : List Char)
    (text : before = earlier ++ "return ".toList) (starts : earlier.getLast?.any isWord = false)
    (ends : after.head?.any (fun c => isWord c || c == '$') = false) : Returned before after := by
  refine ⟨⟨earlier, text, fun c last => ?_⟩, fun c head => ?_⟩
  · simpa [last] using starts
  · simpa [head] using ends

/-- If a symbol occurs in one place only, that place decides. -/
theorem only_returned_of_place (index : Nat)
    (only : ∀ place ≤ content.length, symbol <+: content.drop place → place = index)
    (returned : Returned (content.take index) (content.drop (index + symbol.length))) :
    OnlyReturned symbol content := by
  rintro before after rfl
  have here : before.length = index := by
    apply only
    · simp
    · simp
  rw [← here, List.take_left, ← List.append_assoc, ← List.length_append, List.drop_left] at returned
  exact returned

/-- A symbol that only stands behind `return` is found, unless an access word hides it. -/
theorem returned_symbol_found_iff (occurs : ∃ before after, content = before ++ (symbol ++ after))
    (returned : OnlyReturned symbol content) :
    references symbol content = true ↔ ¬BehindVisibility symbol content := by
  rw [references, mentions_returned returned occurs, Bool.true_and, Bool.not_eq_true',
    ← defined_iff returned, Bool.not_eq_true]

/-- The access word of a method that ends on an earlier line hides nothing. -/
theorem use_on_later_line_found :
    let content := "public int total() \x7b\n  return price(2);\n\x7d".toList
    (∃ before after, content = before ++ ("price".toList ++ after)) ∧
      OnlyReturned "price".toList content ∧ ¬BehindVisibility "price".toList content := by
  intro content
  have occurs : ∃ before after, content = before ++ ("price".toList ++ after) :=
    ⟨content.take 30, content.drop 35, by decide +kernel⟩
  have returned : OnlyReturned "price".toList content := by
    apply only_returned_of_place 30
    · decide +kernel
    · exact .of_ends (content.take 23) (by decide +kernel) (by decide +kernel) (by decide +kernel)
  exact ⟨occurs, returned, (returned_symbol_found_iff occurs returned).mp (by decide +kernel)⟩

/-- On one line the access word of the method hides the use in it. -/
theorem public_method_hides_use :
    let content := "public int total() \x7b return price(2); \x7d".toList
    (∃ before after, content = before ++ ("price".toList ++ after)) ∧
      OnlyReturned "price".toList content ∧ references "price".toList content = false := by
  intro content
  refine ⟨⟨content.take 28, content.drop 33, by decide +kernel⟩, ?_, by decide +kernel⟩
  apply only_returned_of_place 28
  · decide +kernel
  · exact .of_ends (content.take 21) (by decide +kernel) (by decide +kernel) (by decide +kernel)

end EditImpact.Impact
