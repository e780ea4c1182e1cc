import EditImpact.Proofs.Source.Collapsing

/-!
Collapsing is a canonical form. A text consists of punctuation marks and words with blanks around
them. The collapsed text is the tokens with one space between two words in a row, and two texts
collapse to the same text just if they have the same tokens.
-/

namespace EditImpact.Source

open Text

set_option autoImplicit false

/-- A punctuation character by itself, or a word. -/
inductive Token where
  | mark (c : Char)
  | word (letters : List Char)
  deriving DecidableEq, Repr

/-- The characters of words: all but blanks and punctuation. -/
def inWord (c : Char) : Bool := !isBlank c && !isPunctuation c

def startsWord (text : List Char) : Bool := text.head?.any inWord

/-- Puts a character in front of a word that `continued` says it belongs to, or makes it a word. -/
def addLetter (c : Char) (continued : Bool) (tokens : List Token) : List Token :=
  match continued, tokens with
  | true, .word letters :: later => .word (c :: letters) :: later
  | _, _ => .word [c] :: tokens

def tokens : List Char → List Token
  | [] => []
  | c :: rest =>
    if isBlank c then tokens rest
    else if isPunctuation c then .mark c :: tokens rest
    else addLetter c (startsWord rest) (tokens rest)

/-- Tokens as text: a space stands only between two words in a row. `afterWord` says that a word
stands in front. -/
def renderAfter : Bool → List Token → List Char
  | _, [] => []
  | _, .mark c :: later => c :: renderAfter false later
  | true, .word letters :: later => ' ' :: letters ++ renderAfter true later
  | false, .word letters :: later => letters ++ renderAfter true later

def render (tokens : List Token) : List Char := renderAfter false tokens

/-- How a text falls into tokens. A word is never cut: what follows it does not start with a
character of a word. -/
inductive FallsInto : List Char → List Token → Prop where
  | nothing : FallsInto [] []
  | blank {c : Char} {rest : List Char} {later : List Token} (blank : isBlank c = true)
      (rests : FallsInto rest later) : FallsInto (c :: rest) later
  | mark {c : Char} {rest : List Char} {later : List Token} (mark : isPunctuation c = true)
      (rests : FallsInto rest later) : FallsInto (c :: rest) (.mark c :: later)
  | word {letters rest : List Char} {later : List Token} (filled : letters ≠ [])
      (inside : ∀ c ∈ letters, inWord c = true) (ended : startsWord rest = false)
      (rests : FallsInto rest later) : FallsInto (letters ++ rest) (.word letters :: later)

theorem punctuation_filled {c : Char} (mark : isPunctuation c = true) : isBlank c = false := by
  simp only [isPunctuation, List.contains_eq_mem, decide_eq_true_eq] at mark
  exact (by decide : ∀ d ∈ ['<', '>', '(', ')', '[', ']', '\x7b', '\x7d', ',', ':', ';', '|', '&',
    '=', '?', '*'], isBlank d = false) c mark

theorem blank_not_in_word {c : Char} (blank : isBlank c = true) : inWord c = false := by
  simp [inWord, blank]

theorem mark_not_in_word {c : Char} (mark : isPunctuation c = true) : inWord c = false := by
  simp [inWord, mark]

theorem letter_parts {c : Char} (letter : inWord c = true) :
    isBlank c = false ∧ isPunctuation c = false := by
  simpa [inWord] using letter

section Tokens

variable {c : Char} {rest : List Char}

theorem tokens_blank (blank : isBlank c = true) : tokens (c :: rest) = tokens rest := by
  rw [tokens, if_pos blank]

theorem tokens_mark (mark : isPunctuation c = true) :
    tokens (c :: rest) = .mark c :: tokens rest := by
  simp [tokens, punctuation_filled mark, mark]

theorem tokens_letter (letter : inWord c = true) :
    tokens (c :: rest) = addLetter c (startsWord rest) (tokens rest) := by
  obtain ⟨filled, plain⟩ := letter_parts letter
  simp [tokens, filled, plain]

/-- A character is a blank, a mark or in a word. -/
theorem character_cases (c : Char) :
    isBlank c = true ∨ isPunctuation c = true ∨ inWord c = true := by
  by_cases blank : isBlank c = true
  · exact .inl blank
  · by_cases mark : isPunctuation c = true
    · exact .inr (.inl mark)
    · exact .inr (.inr (by simp [inWord, blank, mark]))

end Tokens

theorem add_letter_apart (c : Char) (later : List Token) :
    addLetter c false later = .word [c] :: later := by
  cases later <;> rfl

/-- A word at the start of a text is its first token. -/
theorem first_token_word {text : List Char} (starts : startsWord text = true) :
    ∃ letters later, tokens text = .word letters :: later := by
  cases text with
  | nil => cases starts
  | cons c rest =>
      rw [tokens_letter starts]
      unfold addLetter
      split
      · exact ⟨_, _, rfl⟩
      · exact ⟨_, _, rfl⟩

theorem tokens_word {letters rest : List Char} (filled : letters ≠ [])
    (inside : ∀ c ∈ letters, inWord c = true) (ended : startsWord rest = false) :
    tokens (letters ++ rest) = .word letters :: tokens rest := by
  induction letters with
  | nil => contradiction
  | cons c letters induction =>
      rw [List.cons_append, tokens_letter (inside c List.mem_cons_self)]
      cases letters with
      | nil =>
          rw [List.nil_append, ended]
          exact add_letter_apart c _
      | cons d letters =>
          have later := induction (List.cons_ne_nil d letters)
            fun e member => inside e (List.mem_cons_of_mem c member)
          have continued : startsWord (d :: letters ++ rest) = true :=
            inside d (List.mem_cons_of_mem c List.mem_cons_self)
          rw [later, continued]
          rfl

/-- A text falls into tokens in one way only. -/
theorem tokens_of_falls {text : List Char} {found : List Token} (falls : FallsInto text found) :
    tokens text = found := by
  induction falls with
  | nothing => rfl
  | blank blank _ induction => rw [tokens_blank blank, induction]
  | mark mark _ induction => rw [tokens_mark mark, induction]
  | word filled inside ended _ induction => rw [tokens_word filled inside ended, induction]

theorem exists_falls (text : List Char) : ∃ found, FallsInto text found := by
  cases text with
  | nil => exact ⟨[], .nothing⟩
  | cons c rest =>
      rcases character_cases c with blank | mark | letter
      · obtain ⟨later, falls⟩ := exists_falls rest
        exact ⟨later, .blank blank falls⟩
      · obtain ⟨later, falls⟩ := exists_falls rest
        exact ⟨.mark c :: later, .mark mark falls⟩
      · -- The word is all that goes on with characters of words.
        obtain ⟨later, falls⟩ := exists_falls (rest.dropWhile inWord)
        have inside : ∀ d ∈ c :: rest.takeWhile inWord, inWord d = true := by
          intro d member
          rcases List.mem_cons.mp member with rfl | member
          · exact letter
          · exact List.all_eq_true.mp List.all_takeWhile d member
        have ended : startsWord (rest.dropWhile inWord) = false := by
          cases dropped : rest.dropWhile inWord with
          | nil => rfl
          | cons d more =>
              have stopped := List.head?_dropWhile_not inWord rest
              rw [dropped] at stopped
              simpa [startsWord] using stopped
        have whole := FallsInto.word (List.cons_ne_nil c _) inside ended falls
        rw [List.cons_append, List.takeWhile_append_dropWhile] at whole
        exact ⟨_, whole⟩
termination_by text.length
decreasing_by
  all_goals simp only [List.length_cons, Nat.lt_succ_iff, Nat.le_refl]
  exact (List.dropWhile_sublist inWord).length_le

/-- The tokens of a text are what it falls into. -/
theorem falls_into_iff (text : List Char) (found : List Token) :
    FallsInto text found ↔ tokens text = found := by
  refine ⟨tokens_of_falls, ?_⟩
  rintro rfl
  obtain ⟨found, falls⟩ := exists_falls text
  rw [tokens_of_falls falls]
  exact falls

/-! ### Collapsing keeps the tokens -/

theorem starts_word_squeeze (text : List Char) :
    startsWord (squeeze false text) = startsWord text := by
  cases text with
  | nil => rfl
  | cons c rest =>
      rw [squeeze]
      split
      · next blank =>
          have apart : inWord c = false := blank_not_in_word blank
          have space : inWord ' ' = false := by decide
          simp [startsWord, apart, space]
      · rfl

theorem tokens_squeeze (text : List Char) (inBlank : Bool) :
    tokens (squeeze inBlank text) = tokens text := by
  induction text generalizing inBlank with
  | nil => rfl
  | cons c rest induction =>
      rcases character_cases c with blank | mark | letter
      · have space : isBlank ' ' = true := by decide
        cases inBlank <;> simp [squeeze, blank, tokens_blank blank, tokens_blank space, induction]
      · simp [squeeze, punctuation_filled mark, tokens_mark mark, induction]
      · have filled := (letter_parts letter).1
        rw [squeeze, if_neg (by simp [filled]), tokens_letter letter, tokens_letter letter,
          induction, starts_word_squeeze]

/-- A blank that is dropped stands at a mark, so no word grows together with another one. -/
theorem starts_word_tighten (text : List Char) :
    startsWord (tighten false text) = startsWord text := by
  cases text with
  | nil => rfl
  | cons c rest =>
      rcases character_cases c with blank | mark | letter
      · have apart : startsWord (c :: rest) = false := blank_not_in_word blank
        rw [tighten, if_pos blank]
        split
        · next dropped =>
            obtain ⟨d, head, mark⟩ := Option.any_eq_true _ _ |>.mp dropped
            obtain ⟨more, rfl⟩ := List.head?_eq_some_iff.mp head
            rw [tighten, if_neg (by simp [punctuation_filled mark]), apart]
            exact mark_not_in_word mark
        · rfl
      · simp [tighten, punctuation_filled mark, startsWord]
      · simp [tighten, letter_parts letter, startsWord]

theorem tokens_tighten (text : List Char) (after : Bool) :
    tokens (tighten after text) = tokens text := by
  induction text generalizing after with
  | nil => rfl
  | cons c rest induction =>
      rcases character_cases c with blank | mark | letter
      · rw [tighten, if_pos blank, tokens_blank blank]
        split
        · exact induction after
        · rw [tokens_blank blank, induction]
      · simp [tighten, punctuation_filled mark, tokens_mark mark, induction]
      · obtain ⟨filled, plain⟩ := letter_parts letter
        rw [tighten, if_neg (by simp [filled]), tokens_letter letter, tokens_letter letter, plain,
          induction, starts_word_tighten]

theorem tokens_blanks_append {blanks : List Char} (blank : AllBlank blanks) (text : List Char) :
    tokens (blanks ++ text) = tokens text := by
  induction blanks with
  | nil => rfl
  | cons c blanks induction =>
      rw [List.cons_append, tokens_blank (blank c List.mem_cons_self)]
      exact induction fun d member => blank d (List.mem_cons_of_mem c member)

theorem starts_word_append_blanks {blanks : List Char} (blank : AllBlank blanks)
    (text : List Char) : startsWord (text ++ blanks) = startsWord text := by
  cases text with
  | cons c rest => rfl
  | nil =>
      cases blanks with
      | nil => rfl
      | cons c blanks => exact blank_not_in_word (blank c List.mem_cons_self)

theorem tokens_append_blanks {blanks : List Char} (blank : AllBlank blanks) (text : List Char) :
    tokens (text ++ blanks) = tokens text := by
  induction text with
  | nil =>
      have none := tokens_blanks_append blank []
      rw [List.append_nil] at none
      exact none
  | cons c rest induction =>
      rw [List.cons_append]
      rcases character_cases c with space | mark | letter
      · rw [tokens_blank space, tokens_blank space, induction]
      · rw [tokens_mark mark, tokens_mark mark, induction]
      · rw [tokens_letter letter, tokens_letter letter, induction, starts_word_append_blanks blank]

theorem tokens_trim (text : List Char) : tokens (trim text) = tokens text := by
  obtain ⟨before, after, blankBefore, blankAfter, around⟩ := eq_around_trim text
  calc tokens (trim text) = tokens (trim text ++ after) := (tokens_append_blanks blankAfter _).symm
    _ = tokens (before ++ (trim text ++ after)) := (tokens_blanks_append blankBefore _).symm
    _ = tokens text := by rw [← List.append_assoc, ← around]

theorem tokens_collapse (text : List Char) : tokens (collapse text) = tokens text := by
  rw [collapse, tokens_tighten, tokens_trim, tokens_squeeze]

/-! ### Collapsed texts are rendered tokens -/

/-- Every blank is a single space with a character behind it that is not blank. -/
def Spaced : List Char → Prop
  | [] => True
  | c :: rest => (isBlank c = true → c = ' ' ∧ rest.head?.any (!isBlank ·) = true) ∧ Spaced rest

theorem head_squeeze {text : List Char} (filled : text ≠ [])
    (ended : ∀ c ∈ text.getLast?, isBlank c = false) :
    (squeeze true text).head?.any (!isBlank ·) = true := by
  induction text with
  | nil => contradiction
  | cons c rest induction =>
      rw [squeeze]
      split
      · next blank =>
          cases rest with
          | nil =>
              rw [ended c rfl] at blank
              cases blank
          | cons d rest =>
              rw [if_pos rfl]
              exact induction (List.cons_ne_nil d rest) ended
      · next filled => simpa using filled

theorem spaced_squeeze {text : List Char} (ended : ∀ c ∈ text.getLast?, isBlank c = false)
    (inBlank : Bool) : Spaced (squeeze inBlank text) := by
  induction text generalizing inBlank with
  | nil => trivial
  | cons c rest induction =>
      rw [squeeze]
      have later : ∀ d ∈ rest.getLast?, isBlank d = false := by
        intro d last
        exact ended d (by rw [List.getLast?_cons, last]; rfl)
      split
      · next blank =>
          have more : rest ≠ [] := by
            rintro rfl
            rw [ended c rfl] at blank
            cases blank
          split
          · exact induction later true
          · exact ⟨fun _ => ⟨rfl, head_squeeze more later⟩, induction later true⟩
      · next filled => exact ⟨fun blank => absurd blank filled, induction later false⟩

theorem render_word (afterWord : Bool) (letters : List Char) (later : List Token) :
    renderAfter afterWord (.word letters :: later) =
      (if afterWord then [' '] else []) ++ letters ++ renderAfter true later := by
  cases afterWord <;> simp [renderAfter]

theorem render_mark (afterWord : Bool) (c : Char) (later : List Token) :
    renderAfter afterWord (.mark c :: later) = c :: renderAfter false later := by
  cases afterWord <;> rfl

/-- A word is written with the space before it, then its first letter, then its rest. -/
theorem render_letter {c : Char} (letter : inWord c = true) (rest : List Char)
    (afterWord : Bool) :
    renderAfter afterWord (tokens (c :: rest)) =
      (if afterWord then [' '] else []) ++ c :: renderAfter (!startsWord rest) (tokens rest) := by
  rw [tokens_letter letter]
  cases starts : startsWord rest with
  | false =>
      rw [add_letter_apart, render_word]
      simp
  | true =>
      obtain ⟨letters, later, first⟩ := first_token_word starts
      rw [first, addLetter, render_word, Bool.not_true, render_word]
      simp

/-- In a spaced text a blank stays just if a word stands on either side, where `after` says that no
word stands in front of the text. -/
theorem tighten_spaced {text : List Char} (spaced : Spaced text) (after : Bool) :
    tighten after text = renderAfter (!after && !startsWord text) (tokens text) := by
  induction text generalizing after with
  | nil => cases after <;> rfl
  | cons c rest induction =>
      obtain ⟨here, later⟩ := spaced
      rcases character_cases c with blank | mark | letter
      · obtain ⟨rfl, next⟩ := here blank
        obtain ⟨d, head, filled⟩ := Option.any_eq_true _ _ |>.mp next
        obtain ⟨more, rfl⟩ := List.head?_eq_some_iff.mp head
        have apart : startsWord (' ' :: d :: more) = false := blank_not_in_word blank
        have further := induction later
        rw [tighten, if_pos blank, tokens_blank blank, apart]
        rcases character_cases d with space | mark | letter
        · simp [space] at filled
        · have unworded : startsWord (d :: more) = false := mark_not_in_word mark
          rw [if_pos (by simp [mark]), further, unworded]
        · have worded : startsWord (d :: more) = true := letter
          cases after with
          | true =>
              rw [if_pos (by simp), further]
              rfl
          | false =>
              rw [if_neg (by simp [(letter_parts letter).2]), further, worded]
              simp [render_letter letter]
      · rw [tighten, if_neg (by simp [punctuation_filled mark]), mark, induction later,
          tokens_mark mark, render_mark]
        rfl
      · obtain ⟨filled, plain⟩ := letter_parts letter
        have starts : startsWord (c :: rest) = true := letter
        rw [tighten, if_neg (by simp [filled]), plain, induction later, render_letter letter,
          starts]
        simp

theorem collapse_eq_render (text : List Char) : collapse text = render (tokens text) := by
  have trimmed : collapse text = collapse (trim text) := by
    obtain ⟨before, after, blankBefore, blankAfter, around⟩ := eq_around_trim text
    exact (congrArg collapse around).trans (collapse_around blankBefore blankAfter (trim text))
  rw [trimmed, ← tokens_trim text]
  rcases trim_empty_or_tight text with empty | tight
  · rw [empty]
    rfl
  · have spaced : Spaced (squeeze false (trim text)) := by
      obtain ⟨-, d, last, ended⟩ := tight
      refine spaced_squeeze ?_ false
      intro c final
      rw [last] at final
      cases final
      exact ended
    -- Nothing is dropped at the start, so it is the same as behind a mark.
    have begun : tighten false (squeeze false (trim text)) =
        tighten true (squeeze false (trim text)) := by
      obtain ⟨first, -⟩ := squeeze_ends tight
      obtain ⟨⟨c, head, filled⟩, -⟩ := tight
      obtain ⟨more, starts⟩ := List.head?_eq_some_iff.mp (first.trans head)
      simp [starts, tighten, filled]
    rw [collapse_tight tight, begun, tighten_spaced spaced, tokens_squeeze]
    rfl

/-- Collapsing is a canonical form: it writes the tokens of a text with a space between two words in
a row and nothing else, so two texts collapse alike just if they have the same tokens, and a text
that is collapsed stays as it is. -/
theorem collapse_is_canonical :
    (∀ text found, FallsInto text found ↔ tokens text = found) ∧
      (∀ text, collapse text = render (tokens text)) ∧
      (∀ left right, collapse left = collapse right ↔ tokens left = tokens right) ∧
      ∀ text, collapse (collapse text) = collapse text := by
  refine ⟨falls_into_iff, collapse_eq_render, ?_, ?_⟩
  · intro left right
    constructor
    · intro same
      rw [← tokens_collapse left, same, tokens_collapse]
    · intro same
      rw [collapse_eq_render, same, ← collapse_eq_render]
  · intro text
    rw [collapse_eq_render (collapse text), tokens_collapse, ← collapse_eq_render]

end EditImpact.Source
