import EditImpact.Proofs.Source.Causality

/-!
# Masking lexeme by lexeme

A text is a sequence of comments, strings and single characters of code, each found by searching for
its end: `lexemeLength`. A search may run to the end of the text, but every lexeme takes at least one
character, so `lexemes` comes to an end, and masking starts afresh at each of them
(`mask_drop_lexeme`). What stays of a character, and what may stand behind it unseen, is put together
in `masking_keeps_places`.
-/

namespace EditImpact.Source

set_option autoImplicit false

/-- The length of a comment that ends before the next newline. -/
def lineLength (text : List Char) : Nat := (text.takeWhile (· != '\n')).length

/-- The length of a comment behind its opening, with its closing if there is one. -/
def blockLength : List Char → Nat
  | [] => 0
  | '*' :: '/' :: _ => 2
  | _ :: rest => blockLength rest + 1

/-- The length of a string behind its opening delimiter: up to and with the closing one, or else up
to the newline that breaks it off, or else to the end. An escape is passed over as a pair. -/
def stringLength (delimiter : List Char) (overLines : Bool) : List Char → Nat
  | [] => 0
  | ['\\'] => 1
  | '\\' :: _ :: rest => stringLength delimiter overLines rest + 2
  | c :: rest =>
    if delimiter.isPrefixOf (c :: rest) then delimiter.length
    else if c == '\n' && !overLines then 0
    else stringLength delimiter overLines rest + 1

/-- The length of the comment, string or character of code that a text begins with. -/
def lexemeLength (dialect : Dialect) : List Char → Nat
  | [] => 0
  | c :: rest =>
    if opensLine dialect c rest then lineLength (c :: rest)
    else if !dialect.hashComments && c == '/' && rest.head? == some '*' then
      blockLength (rest.drop 1) + 2
    else if dialect.quotes.contains c then
      if dialect.hashComments && [c, c].isPrefixOf rest then
        stringLength [c, c, c] true (rest.drop 2) + 3
      else stringLength [c] (c == '`') rest + 1
    else 1

theorem opens_line_ne {dialect : Dialect} {c : Char} {rest : List Char}
    (opens : opensLine dialect c rest = true) : c ≠ '\n' := by
  rintro rfl
  unfold opensLine at opens
  split at opens <;> simp at opens

theorem line_length_cons {c : Char} (other : c ≠ '\n') (rest : List Char) :
    lineLength (c :: rest) = lineLength rest + 1 := by
  simp [lineLength, other]

theorem lexeme_length_pos (dialect : Dialect) (c : Char) (rest : List Char) :
    0 < lexemeLength dialect (c :: rest) := by
  rw [lexemeLength]
  split
  · next opens =>
      rw [line_length_cons (opens_line_ne opens)]
      exact Nat.succ_pos _
  · split
    · exact Nat.succ_pos _
    · split
      · split <;> exact Nat.succ_pos _
      · exact Nat.one_pos

theorem block_length_le (text : List Char) : blockLength text ≤ text.length := by
  fun_induction blockLength text with
  | case1 => exact Nat.le_refl _
  | case2 rest => simp
  | case3 c rest open' induction => simpa using induction

theorem string_length_le (delimiter : List Char) (overLines : Bool) (text : List Char) :
    stringLength delimiter overLines text ≤ text.length := by
  fun_induction stringLength delimiter overLines text with
  | case1 => exact Nat.le_refl _
  | case2 => exact Nat.le_refl _
  | case3 c rest induction => simpa using induction
  | case4 c rest _ _ closes => exact (List.isPrefixOf_iff_prefix.mp closes).length_le
  | case5 c rest => exact Nat.zero_le _
  | case6 c rest _ _ _ _ induction => simpa using induction

/-- No search runs past the end, not even over an escape that nothing follows. -/
theorem lexeme_length_le (dialect : Dialect) (text : List Char) :
    lexemeLength dialect text ≤ text.length := by
  cases text with
  | nil => exact Nat.le_refl _
  | cons c rest =>
      rw [lexemeLength]
      split
      · exact (List.takeWhile_prefix _).length_le
      · split
        · next opens =>
            simp only [Bool.and_eq_true, beq_iff_eq] at opens
            obtain ⟨more, rfl⟩ := List.head?_eq_some_iff.mp opens.2
            simpa using block_length_le more
        · split
          · split
            · next long =>
                simp only [Bool.and_eq_true, List.isPrefixOf_iff_prefix] at long
                obtain ⟨more, rfl⟩ := long.2
                simpa using string_length_le [c, c, c] true more
            · simpa using string_length_le [c] (c == '`') rest
          · simp

/-- The lexemes of a text. -/
def lexemes (dialect : Dialect) : List Char → List (List Char)
  | [] => []
  | c :: rest =>
    (c :: rest).take (lexemeLength dialect (c :: rest)) ::
      lexemes dialect ((c :: rest).drop (lexemeLength dialect (c :: rest)))
termination_by text => text.length
decreasing_by
  have taken := lexeme_length_pos dialect c rest
  rw [List.length_drop, List.length_cons]
  omega

theorem flatten_lexemes (dialect : Dialect) (text : List Char) :
    (lexemes dialect text).flatten = text := by
  fun_induction lexemes dialect text with
  | case1 => rfl
  | case2 c rest induction => rw [List.flatten_cons, induction, List.take_append_drop]

theorem lexemes_length_le (dialect : Dialect) (text : List Char) :
    (lexemes dialect text).length ≤ text.length := by
  fun_induction lexemes dialect text with
  | case1 => exact Nat.le_refl _
  | case2 c rest induction =>
      have taken := lexeme_length_pos dialect c rest
      rw [List.length_drop, List.length_cons] at induction
      rw [List.length_cons, List.length_cons]
      omega

/-- Behind the first characters of a text, which are read from a given place on, the reader goes on
as in code. -/
def Restarts (language : Option Language) (mode : Mode) (text : List Char) (count : Nat) : Prop :=
  (covers (Dialect.of language) mode text).drop count =
    covers (Dialect.of language) .code (text.drop count)

section Restarting

variable {language : Option Language}

theorem Restarts.behind {mode next : Mode} {c : Char} {rest : List Char} {count : Nat}
    (later : Restarts language next rest count)
    (read : (step (Dialect.of language) mode c rest).2 = next) :
    Restarts language mode (c :: rest) (count + 1) := by
  subst read
  exact later

theorem restarts_end (mode : Mode) : Restarts language mode [] 0 := rfl

theorem restarts_code (text : List Char) : Restarts language .code text 0 := rfl

/-- A newline is read alike by what it ends and by the code behind. -/
theorem restarts_newline {mode : Mode} {rest : List Char}
    (read : step (Dialect.of language) mode '\n' rest = (.code, .code)) :
    Restarts language mode ('\n' :: rest) 0 := by
  have plain : step (Dialect.of language) .code '\n' rest = (.code, .code) :=
    step_code_blank (by decide) rest
  simp only [Restarts, List.drop_zero, covers, read, plain]

theorem restarts_line (text : List Char) :
    Restarts language .lineComment text (lineLength text) := by
  induction text with
  | nil => exact restarts_end _
  | cons c rest induction =>
      by_cases newline : c = '\n'
      · subst newline
        have ended : lineLength ('\n' :: rest) = 0 := by simp [lineLength]
        rw [ended]
        exact restarts_newline rfl
      · rw [line_length_cons newline]
        exact induction.behind (by simp [step, newline])

theorem restarts_block (text : List Char) : Restarts language .block text (blockLength text) := by
  fun_induction blockLength text with
  | case1 => exact restarts_end _
  | case2 rest => exact ((restarts_code rest).behind rfl).behind rfl
  | case3 c rest open' induction =>
      have stays : ¬(c = '*' ∧ rest.head? = some '/') := by
        rintro ⟨star, slash⟩
        obtain ⟨more, there⟩ := List.head?_eq_some_iff.mp slash
        exact open' more star there
      exact induction.behind (by simp [step, stays])

/-- A character that neither escape pattern matches is no backslash. -/
theorem ne_backslash {c : Char} {rest : List Char} (last : c = '\\' → rest = [] → False)
    (pair : ∀ d more, c = '\\' → rest = d :: more → False) : c ≠ '\\' := by
  intro backslash
  cases rest with
  | nil => exact last backslash rfl
  | cons d more => exact pair d more backslash rfl

theorem restarts_short (quote : Char) (text : List Char) :
    Restarts language (.quoted quote false) text (stringLength [quote] (quote == '`') text) := by
  fun_induction stringLength [quote] (quote == '`') text with
  | case1 => exact restarts_end _
  | case2 => exact (restarts_end _).behind rfl
  | case3 c rest induction => exact (induction.behind rfl).behind rfl
  | case4 c rest last pair closes =>
      have same : quote = c := by simpa [List.isPrefixOf] using closes
      subst same
      have ended : (step (Dialect.of language) (.quoted quote false) quote rest).2 = .code := by
        simp [step, ne_backslash last pair]
      exact (restarts_code rest).behind ended
  | case5 c rest last pair open' newline =>
      simp only [Bool.and_eq_true, beq_iff_eq, Bool.not_eq_true', beq_eq_false_iff_ne] at newline
      obtain ⟨rfl, short⟩ := newline
      have other : '\n' ≠ quote := by
        rintro rfl
        simp [List.isPrefixOf] at open'
      exact restarts_newline (by simp [step, other, short])
  | case6 c rest last pair open' plain induction =>
      have other : c ≠ quote := by
        rintro rfl
        simp [List.isPrefixOf] at open'
      refine induction.behind ?_
      simp only [Bool.and_eq_true, Bool.not_eq_true', not_and, Bool.not_eq_false] at plain
      by_cases newline : c = '\n'
      · have template : quote = '`' := by simpa [newline] using plain
        subst template
        simp [step, ne_backslash last pair, other]
      · simp [step, ne_backslash last pair, other, newline]

theorem restarts_long (quote : Char) (text : List Char) :
    Restarts language (.quoted quote true) text (stringLength [quote, quote, quote] true text) := by
  fun_induction stringLength [quote, quote, quote] true text with
  | case1 => exact restarts_end _
  | case2 => exact (restarts_end _).behind rfl
  | case3 c rest induction => exact (induction.behind rfl).behind rfl
  | case4 c rest last pair closes =>
      rw [List.isPrefixOf_cons_cons, Bool.and_eq_true, beq_iff_eq] at closes
      obtain ⟨rfl, two⟩ := closes
      have closing : (step (Dialect.of language) (.quoted quote true) quote rest).2 =
          .closing 2 := by
        rw [step_long_string]
        simp [ne_backslash last pair, two]
      obtain ⟨more, rfl⟩ := List.isPrefixOf_iff_prefix.mp two
      exact (((restarts_code more).behind rfl).behind rfl).behind closing
  | case5 c rest last pair open' newline => simp at newline
  | case6 c rest last pair open' plain induction =>
      have stays : (c == quote && [quote, quote].isPrefixOf rest) = false := by
        rw [List.isPrefixOf_cons_cons, Bool.not_eq_true] at open'
        rwa [Bool.beq_comm]
      refine induction.behind ?_
      rw [step_long_string, stays]
      simp [ne_backslash last pair]

/-- Where a lexeme ends, whatever it is, the reader is back in code. -/
theorem restarts_lexeme (text : List Char) :
    Restarts language .code text (lexemeLength (Dialect.of language) text) := by
  cases text with
  | nil => exact restarts_code []
  | cons c rest =>
      rw [lexemeLength]
      have read := step_code (Dialect.of language) c rest
      split
      · next opens =>
          rw [if_pos opens] at read
          rw [line_length_cons (opens_line_ne opens)]
          exact (restarts_line rest).behind (congrArg Prod.snd read)
      · next noLine =>
          rw [if_neg noLine] at read
          split
          · next opens =>
              rw [if_pos opens] at read
              simp only [Bool.and_eq_true, beq_iff_eq] at opens
              obtain ⟨more, rfl⟩ := List.head?_eq_some_iff.mp opens.2
              exact ((restarts_block more).behind rfl).behind (congrArg Prod.snd read)
          · next noBlock =>
              rw [if_neg noBlock] at read
              split
              · next quote =>
                  rw [if_pos quote] at read
                  split
                  · next long =>
                      rw [if_pos long] at read
                      simp only [Bool.and_eq_true, List.isPrefixOf_iff_prefix] at long
                      obtain ⟨more, rfl⟩ := long.2
                      exact (((restarts_long c more).behind rfl).behind rfl).behind
                        (congrArg Prod.snd read)
                  · next short =>
                      rw [if_neg short] at read
                      exact (restarts_short c rest).behind (congrArg Prod.snd read)
              · next plain =>
                  rw [if_neg plain] at read
                  exact (restarts_code rest).behind (congrArg Prod.snd read)

end Restarting

/-- Behind its first lexeme a text is masked as if it began there. -/
theorem mask_drop_lexeme (language : Option Language) (hideStrings : Bool) (text : List Char) :
    (mask language hideStrings text).drop (lexemeLength (Dialect.of language) text) =
      mask language hideStrings (text.drop (lexemeLength (Dialect.of language) text)) := by
  have again : Restarts language .code text (lexemeLength (Dialect.of language) text) :=
    restarts_lexeme text
  rw [mask, List.drop_zipWith, again]
  rfl

theorem mask_behind_lexemes {language : Option Language} (hideStrings : Bool) {text : List Char}
    {earlier later : List (List Char)}
    (cut : lexemes (Dialect.of language) text = earlier ++ later) :
    (mask language hideStrings text).drop earlier.flatten.length =
      mask language hideStrings later.flatten := by
  induction earlier generalizing text with
  | nil =>
      have whole := flatten_lexemes (Dialect.of language) text
      rw [cut, List.nil_append] at whole
      rw [whole]
      rfl
  | cons first earlier induction =>
      cases text with
      | nil =>
          rw [lexemes] at cut
          cases cut
      | cons c rest =>
          rw [lexemes, List.cons_append] at cut
          obtain ⟨taken, others⟩ := List.cons.inj cut
          have length : first.length = lexemeLength (Dialect.of language) (c :: rest) := by
            rw [← taken, List.length_take, Nat.min_eq_left (lexeme_length_le _ _)]
          rw [List.flatten_cons, List.length_append, length, ← List.drop_drop, mask_drop_lexeme]
          exact induction others

/-- What a character shows as is told by what it belongs to. -/
theorem get_mask (language : Option Language) {text : List Char} {index : Nat} {c : Char}
    (there : text[index]? = some c) :
    ∃ cover, ∀ hideStrings,
      (mask language hideStrings text)[index]? = some (paint hideStrings cover c) := by
  obtain ⟨inside, -⟩ := List.getElem?_eq_some_iff.mp there
  have covered : index < (covers (Dialect.of language) .code text).length := by
    rw [covers_length]
    exact inside
  refine ⟨(covers (Dialect.of language) .code text)[index], fun hideStrings => ?_⟩
  rw [mask, List.getElem?_zipWith, there, List.getElem?_eq_getElem covered]

theorem paint_kept_or_blank (hideStrings : Bool) (cover : Cover) (c : Char) :
    paint hideStrings cover c = c ∨ c ≠ '\n' ∧ paint hideStrings cover c = ' ' := by
  rcases paint_cases hideStrings cover c with kept | hidden
  · exact .inl kept
  · by_cases newline : c = '\n'
    · exact .inl (by rw [hidden, newline]; rfl)
    · exact .inr ⟨newline, by simp [hidden, blankOut, newline]⟩

/-- Only the contents of strings depend on whether they are to be hidden. -/
theorem paint_differs {cover : Cover} {c : Char}
    (differs : paint true cover c ≠ paint false cover c) :
    paint true cover c = ' ' ∧ paint false cover c = c := by
  cases cover with
  | code => exact absurd rfl differs
  | comment => exact absurd rfl differs
  | literal =>
      have shown : paint false .literal c = c := rfl
      rcases paint_kept_or_blank true .literal c with kept | ⟨-, hidden⟩
      · exact absurd (kept.trans shown.symm) differs
      · exact ⟨hidden, shown⟩

/-- Masking goes through a text in at most as many lexemes as there are characters, and each is read
as if the text began there. The masked text has the length of the text and at every place its
character, or a space for one that is no newline; hiding strings as well only puts spaces where
their characters were shown; and what follows a text changes none of it but its last two
characters. -/
theorem masking_keeps_places (language : Option Language) (text : List Char) :
    ((lexemes (Dialect.of language) text).length ≤ text.length ∧
        (lexemes (Dialect.of language) text).flatten = text ∧
        ∀ hideStrings earlier later, lexemes (Dialect.of language) text = earlier ++ later →
          (mask language hideStrings text).drop earlier.flatten.length =
            mask language hideStrings later.flatten) ∧
      (∀ hideStrings, (mask language hideStrings text).length = text.length ∧
        ∀ (index : Nat) (c : Char), text[index]? = some c →
          (mask language hideStrings text)[index]? = some c ∨
            c ≠ '\n' ∧ (mask language hideStrings text)[index]? = some ' ') ∧
      (∀ index : Nat,
        (mask language true text)[index]? ≠ (mask language false text)[index]? →
          (mask language true text)[index]? = some ' ' ∧
            (mask language false text)[index]? = text[index]?) ∧
      ∀ (hideStrings : Bool) (more : List Char) (index : Nat), index + 2 < text.length →
        (mask language hideStrings (text ++ more))[index]? =
          (mask language hideStrings text)[index]? := by
  refine ⟨⟨lexemes_length_le _ _, flatten_lexemes _ _, fun hideStrings earlier later cut =>
    mask_behind_lexemes hideStrings cut⟩, fun hideStrings => ⟨mask_length _ _ _, ?_⟩, ?_, ?_⟩
  · intro index c there
    obtain ⟨cover, shown⟩ := get_mask language there
    rw [shown, Option.some.injEq, Option.some.injEq]
    exact paint_kept_or_blank hideStrings cover c
  · intro index differs
    cases there : text[index]? with
    | none =>
        have outside := List.getElem?_eq_none_iff.mp there
        rw [List.getElem?_eq_none (by rwa [mask_length]),
          List.getElem?_eq_none (by rwa [mask_length])] at differs
        exact absurd rfl differs
    | some c =>
        obtain ⟨cover, shown⟩ := get_mask language there
        rw [shown, shown, ne_eq, Option.some.injEq] at differs
        rw [shown, shown, Option.some.injEq, Option.some.injEq]
        exact paint_differs differs
  · intro hideStrings more index early
    have same := congrArg (·[index]?) (mask_append_take language hideStrings text more)
    simpa only [List.getElem?_take_of_lt (by omega : index < text.length - 2)] using same

/-- The bound cannot be better: the third quote that closes a long string may still be to come. -/
example :
    mask (some .python) true "\"\"\"a\"\"".toList = "\"\"\"   ".toList ∧
      mask (some .python) true "\"\"\"a\"\"\"".toList = "\"\"\" \"\"\"".toList := by
  decide

end EditImpact.Source
