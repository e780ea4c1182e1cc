import EditImpact.Proofs.Source.Gaps
import EditImpact.Proofs.Source.Uncommented

/-!
# Masking and blanks

The reader of comments and strings passes over a gap as if there were one blank (`mask_gap`), and
reads a text whose comments are already blank as it reads the text itself (`mask_stripped`).
-/

namespace EditImpact.Source

open Text

set_option autoImplicit false

/-- The characters that the reader announced are really there, and open quotes are quotes. -/
def Ready : Mode → List Char → Prop
  | .blockOpen, text => text.head? = some '*'
  | .blockClose, text => text.head? = some '/'
  | .opening quote left, text => isQuote quote = true ∧ 0 < left ∧ List.replicate left quote <+: text
  | .closing left, text =>
    0 < left ∧ ∃ quote, isQuote quote = true ∧ List.replicate left quote <+: text
  | .quoted quote _, _ => isQuote quote = true
  | .escaped quote _, _ => isQuote quote = true
  | _, _ => True

/-- Whether a comment up to the end of the line opens at `c`. -/
def opensLine (dialect : Dialect) (c : Char) (rest : List Char) : Bool :=
  if dialect.hashComments then c == '#' else c == '/' && rest.head? == some '/'

theorem step_code (dialect : Dialect) (c : Char) (rest : List Char) :
    step dialect .code c rest =
      if opensLine dialect c rest then (.comment, .lineComment)
      else if !dialect.hashComments && c == '/' && rest.head? == some '*' then (.comment, .blockOpen)
      else if dialect.quotes.contains c then
        if dialect.hashComments && [c, c].isPrefixOf rest then (.code, .opening c 2)
        else (.code, .quoted c false)
      else (.code, .code) := rfl

/-- The first of the quotes that are to come, and those behind it. -/
theorem announced_cons {quote c : Char} {left : Nat} {rest : List Char} (some' : 0 < left)
    (there : List.replicate left quote <+: c :: rest) :
    quote = c ∧ List.replicate (left - 1) quote <+: rest := by
  obtain ⟨count, rfl⟩ : ∃ count, left = count + 1 := ⟨left - 1, by omega⟩
  exact List.cons_prefix_cons.mp (List.replicate_succ ▸ there)

theorem ready_next (language : Option Language) {mode : Mode} {c : Char} {rest : List Char}
    (ready : Ready mode (c :: rest)) : Ready (step (Dialect.of language) mode c rest).2 rest := by
  cases mode with
  | code =>
      rw [step_code]
      split
      · trivial
      · split
        · next opens =>
            simp only [Bool.and_eq_true, beq_iff_eq] at opens
            exact opens.2
        · split
          · next quote =>
              have quoted := quotes_are_quotes (List.contains_iff_mem.mp quote)
              split
              · next long =>
                  simp only [Bool.and_eq_true] at long
                  exact ⟨quoted, by decide, List.isPrefixOf_iff_prefix.mp long.2⟩
              · exact quoted
          · trivial
  | lineComment =>
      simp only [step]
      split <;> trivial
  | blockOpen => trivial
  | block =>
      simp only [step]
      split
      · next closes =>
          simp only [Bool.and_eq_true, beq_iff_eq] at closes
          exact closes.2
      · trivial
  | blockClose => trivial
  | opening quote left =>
      obtain ⟨quoted, some', there⟩ := ready
      simp only [step]
      split
      · exact quoted
      · next more => exact ⟨quoted, by omega, (announced_cons some' there).2⟩
  | quoted quote long =>
      have quoted : isQuote quote = true := ready
      simp only [step]
      split
      · exact quoted
      · split
        · split
          · next closes =>
              simp only [Bool.and_eq_true] at closes
              exact ⟨by decide, quote, quoted, List.isPrefixOf_iff_prefix.mp closes.2⟩
          · exact quoted
        · split
          · trivial
          · split
            · trivial
            · exact quoted
  | escaped quote long => exact ready
  | closing left =>
      obtain ⟨some', quote, quoted, there⟩ := ready
      simp only [step]
      split
      · trivial
      · next more => exact ⟨by omega, quote, quoted, (announced_cons some' there).2⟩

theorem head_before_blank {c d : Char} (blank : isBlank c = true) (filled : isBlank d = false)
    (before rest : List Char) :
    ((before ++ c :: rest).head? == some d) = (before.head? == some d) := by
  cases before with
  | nil =>
      have other : c ≠ d := ne_of_blank blank filled
      simp [other]
  | cons e before => rfl

theorem prefix_before_blank {start : List Char} (solid : Solid start) {c : Char}
    (blank : isBlank c = true) (before rest : List Char) :
    start.isPrefixOf (before ++ c :: rest) = start.isPrefixOf before := by
  induction start generalizing before with
  | nil => simp
  | cons d start induction =>
      cases before with
      | nil =>
          have other : d ≠ c := (ne_of_blank blank (solid d List.mem_cons_self)).symm
          simp [List.isPrefixOf, other]
      | cons e before =>
          have later := induction (fun f member => solid f (List.mem_cons_of_mem d member)) before
          simp only [List.cons_append, List.isPrefixOf_cons_cons, later]

theorem quote_filled {c : Char} (quote : isQuote c = true) : isBlank c = false := by
  simp only [isQuote, Bool.or_eq_true, beq_iff_eq] at quote
  rcases quote with (rfl | rfl) | rfl <;> decide

theorem quotes_solid {c : Char} (quote : isQuote c = true) : Solid [c, c] := by
  simp [Solid, quote_filled quote]

/-- The reader does not look across a blank. -/
theorem step_before_blank (language : Option Language) {mode : Mode} (d : Char)
    (before rest : List Char) {text : List Char} {c : Char} (blank : isBlank c = true)
    (ready : Ready mode text) :
    step (Dialect.of language) mode d (before ++ c :: rest) =
      step (Dialect.of language) mode d before := by
  have slash := head_before_blank blank (d := '/') (by decide) before rest
  have star := head_before_blank blank (d := '*') (by decide) before rest
  cases mode with
  | code =>
      rw [step_code, step_code, opensLine, opensLine, slash, star]
      by_cases quote : d ∈ (Dialect.of language).quotes
      · rw [prefix_before_blank (quotes_solid (quotes_are_quotes quote)) blank]
      · simp [quote]
  | block => simp only [step, slash]
  | quoted quote long => simp only [step, prefix_before_blank (quotes_solid ready) blank]
  | lineComment => rfl
  | blockOpen => rfl
  | blockClose => rfl
  | opening quote left => rfl
  | escaped quote long => rfl
  | closing left => rfl

/-- No character is escaped here. -/
def Unescaped : Mode → Prop
  | .escaped _ _ => False
  | _ => True

theorem step_code_blank {language : Option Language} {c : Char} (blank : isBlank c = true)
    (rest : List Char) : step (Dialect.of language) .code c rest = (.code, .code) := by
  have unquoted : c ∉ (Dialect.of language).quotes := fun quote =>
    ne_of_blank blank (quote_filled (quotes_are_quotes quote)) rfl
  have hash : c ≠ '#' := ne_of_blank blank (by decide)
  have slash : c ≠ '/' := ne_of_blank blank (by decide)
  rw [step_code]
  simp [opensLine, hash, slash, unquoted]

theorem step_blank_any {language : Option Language} {mode : Mode} {c : Char} {text : List Char}
    (blank : isBlank c = true) (ready : Ready mode text) (rest : List Char) :
    step (Dialect.of language) mode c rest = step (Dialect.of language) mode c [] := by
  have star : c ≠ '*' := ne_of_blank blank (by decide)
  cases mode with
  | code => rw [step_code_blank blank, step_code_blank blank]
  | block => simp [step, star]
  | quoted quote long => simp [step, ne_of_blank blank (quote_filled ready)]
  | lineComment => rfl
  | blockOpen => rfl
  | blockClose => rfl
  | opening quote left => rfl
  | escaped quote long => rfl
  | closing left => rfl

/-- After the blank of a gap the reader stands where it stood without the added one. -/
theorem step_gap (language : Option Language) {mode : Mode} {added blank : Char}
    (loose : Loose added blank) {after : List Char} (ready : Ready mode (blank :: after))
    (unescaped : Unescaped mode) :
    step (Dialect.of language)
        (step (Dialect.of language) mode added (blank :: after)).2 blank after =
      step (Dialect.of language) mode blank after := by
  have spread := loose.added_blank
  have there := loose.blank_blank
  cases mode with
  | code => rw [step_code_blank spread]
  | lineComment =>
      by_cases line : added = '\n'
      · rw [line, loose.newline line]
        simp only [step, beq_self_eq_true, if_true]
        exact step_code_blank (by decide) after
      · simp [step, line]
  | block =>
      have star : added ≠ '*' := ne_of_blank spread (by decide)
      simp [step, star]
  | quoted quote long =>
      have open' : added ≠ quote := ne_of_blank spread (quote_filled ready)
      have escape : added ≠ '\\' := ne_of_blank spread (by decide)
      cases long with
      | true => simp [step, open', escape]
      | false =>
          by_cases line : added = '\n'
          -- the first newline ends a short string, the second one is then code
          · rw [line, loose.newline line]
            by_cases template : quote = '`'
            · simp [step, template]
            · have differs : '\n' ≠ quote := line ▸ open'
              have ended : step (Dialect.of language) (.quoted quote false) '\n' after =
                  (.code, .code) := by simp [step, template, differs]
              have endedToo : step (Dialect.of language) (.quoted quote false) '\n'
                  ('\n' :: after) = (.code, .code) := by simp [step, template, differs]
              rw [ended, endedToo]
              exact step_code_blank (by decide) after
          · simp [step, open', escape, line]
  -- no blank is among the characters that are announced
  | blockOpen => exact absurd (Option.some.inj ready) (ne_of_blank there (by decide))
  | blockClose => exact absurd (Option.some.inj ready) (ne_of_blank there (by decide))
  | opening quote left =>
      obtain ⟨quoted, some', starts⟩ := ready
      exact absurd (announced_cons some' starts).1.symm (ne_of_blank there (quote_filled quoted))
  | closing left =>
      obtain ⟨some', quote, quoted, starts⟩ := ready
      exact absurd (announced_cons some' starts).1.symm (ne_of_blank there (quote_filled quoted))
  | escaped quote long => exact absurd unescaped id

theorem unescaped_next {dialect : Dialect} {mode : Mode} {c : Char} {rest : List Char}
    (other : c ≠ '\\') : Unescaped (step dialect mode c rest).2 := by
  cases mode with
  | code =>
      rw [step_code]
      split
      · trivial
      · split
        · trivial
        · split
          · split <;> trivial
          · trivial
  | lineComment => simp only [step]; split <;> trivial
  | blockOpen => trivial
  | block => simp only [step]; split <;> trivial
  | blockClose => trivial
  | opening quote left => simp only [step]; split <;> trivial
  | quoted quote long =>
      cases long with
      | true =>
          simp only [step, beq_eq_false_iff_ne.mpr other, Bool.false_eq_true, if_false, if_true]
          split <;> trivial
      | false =>
          simp only [step, beq_eq_false_iff_ne.mpr other, Bool.false_eq_true, if_false]
          split
          · trivial
          · split <;> trivial
  | escaped quote long => trivial
  | closing left => simp only [step]; split <;> trivial

/-- A gap adds one cover and changes no other. -/
theorem covers_gap (language : Option Language) {added blank : Char} (loose : Loose added blank)
    (after : List Char) {before : List Char} (unescaped : before.getLast? ≠ some '\\') {mode : Mode}
    (ready : Ready mode (before ++ blank :: after)) (free : before = [] → Unescaped mode) :
    ∃ early own extra late, early.length = before.length ∧ (added = blank → extra = own) ∧
      covers (Dialect.of language) mode (before ++ blank :: after) = early ++ own :: late ∧
      covers (Dialect.of language) mode (before ++ added :: blank :: after) =
        early ++ extra :: own :: late := by
  -- On the text in front of the gap. A blank ends all that the reader looks ahead for, so up to the
  -- gap both texts are read as `before` is on its own.
  induction before generalizing mode with
  | nil =>
      have same := step_gap language loose ready (free rfl)
      refine ⟨[], (step (Dialect.of language) mode blank after).1,
        (step (Dialect.of language) mode added (blank :: after)).1,
        covers (Dialect.of language) (step (Dialect.of language) mode blank after).2 after,
        rfl, ?_, rfl, ?_⟩
      · rintro rfl
        rw [step_blank_any loose.added_blank ready after,
          step_blank_any loose.added_blank ready (added :: after)]
      · simp only [List.nil_append, covers, same]
  | cons c before induction =>
      have narrow := step_before_blank language c before after loose.blank_blank ready
      have wide := step_before_blank language c before (blank :: after)
        loose.added_blank ready
      have ends : before.getLast? ≠ some '\\' := by
        cases before with
        | nil => simp
        | cons d before => simpa using unescaped
      have next : before = [] → Unescaped (step (Dialect.of language) mode c before).2 := by
        rintro rfl
        exact unescaped_next fun backslash => unescaped (by rw [backslash]; rfl)
      have readyNext : Ready (step (Dialect.of language) mode c before).2
          (before ++ blank :: after) := by
        rw [← narrow]
        exact ready_next language ready
      obtain ⟨early, own, extra, late, length, alike, first, second⟩ :=
        induction ends readyNext next
      refine ⟨(step (Dialect.of language) mode c before).1 :: early, own, extra, late, ?_, alike,
        ?_, ?_⟩
      · rw [List.length_cons, List.length_cons, length]
      · simp only [List.cons_append, covers, narrow, first]
      · simp only [List.cons_append, covers, wide, second]

theorem paint_cases (hideStrings : Bool) (cover : Cover) (c : Char) :
    paint hideStrings cover c = c ∨ paint hideStrings cover c = blankOut c := by
  cases cover with
  | code => exact .inl rfl
  | comment => exact .inr rfl
  | literal =>
      cases hideStrings with
      | true => exact .inr rfl
      | false => exact .inl rfl

/-- The blanks of a gap stay blanks of a gap, whatever they belong to. -/
theorem paint_loose {added blank : Char} (loose : Loose added blank) (hideStrings : Bool)
    (first second : Cover) :
    Loose (paint hideStrings first added) (paint hideStrings second blank) := by
  have all : ∀ c ∈ gapBlanks, ∀ d ∈ gapBlanks, Loose c d →
      Loose c (blankOut d) ∧ Loose (blankOut c) d ∧ Loose (blankOut c) (blankOut d) := by decide
  obtain ⟨right, left, both⟩ := all added loose.added_mem blank loose.blank_mem loose
  rcases paint_cases hideStrings first added with kept | hidden <;>
    rcases paint_cases hideStrings second blank with keptToo | hiddenToo <;> simp only [*]

theorem blank_out_blank (c : Char) : isBlank (blankOut c) = true := by
  unfold blankOut
  split
  · next line => rw [beq_iff_eq.mp line]; decide
  · decide

theorem painted_solid {hideStrings : Bool} {covers : List Cover} {text : List Char}
    (length : covers.length = text.length)
    (solid : Solid (List.zipWith (paint hideStrings) covers text)) :
    List.zipWith (paint hideStrings) covers text = text := by
  induction text generalizing covers with
  | nil => simp
  | cons c text induction =>
      cases covers with
      | nil => cases length
      | cons cover covers =>
          rw [List.zipWith_cons_cons] at solid ⊢
          have here : paint hideStrings cover c = c := by
            rcases paint_cases hideStrings cover c with kept | hidden
            · exact kept
            · have filled := solid _ List.mem_cons_self
              rw [hidden, blank_out_blank] at filled
              cases filled
          rw [here, induction (Nat.succ.inj length)
            fun d member => solid d (List.mem_cons_of_mem _ member)]

theorem painted_suffix {hideStrings : Bool} {covers : List Cover} {text word : List Char}
    (length : covers.length = text.length) (solid : Solid word)
    (shown : word <:+ List.zipWith (paint hideStrings) covers text) : word <:+ text := by
  have ends := List.suffix_iff_eq_drop.mp shown
  rw [List.drop_zipWith] at ends
  rw [ends, painted_solid (by simp [length]) (ends ▸ solid)]
  exact List.drop_suffix _ _

/-- A masked gap is a gap. -/
theorem mask_gap (language : Option Language) (hideStrings : Bool) (gap : Gap) :
    ∃ masked : Gap, masked.before.length = gap.before.length ∧
      mask language hideStrings gap.narrow = masked.narrow ∧
      mask language hideStrings gap.wide = masked.wide := by
  have ready : Ready .code (gap.before ++ gap.blank :: gap.after) := trivial
  obtain ⟨early, own, extra, late, length, alike, narrow, wide⟩ :=
    covers_gap language gap.loose gap.after gap.free.unescaped ready fun _ => trivial
  have kept (word : List Char) (solid : Solid word)
      (shown : word <:+ List.zipWith (paint hideStrings) early gap.before) : word <:+ gap.before :=
    painted_suffix length solid shown
  have unescaped : (List.zipWith (paint hideStrings) early gap.before).getLast? ≠ some '\\' := by
    intro last
    obtain ⟨front, whole⟩ := List.getLast?_eq_some_iff.mp last
    obtain ⟨more, source⟩ := kept ['\\'] (by decide) ⟨front, whole.symm⟩
    exact gap.free.unescaped (by rw [← source]; exact List.getLast?_concat)
  have strict : ∀ word ∈ strictWords,
      word.toList <:+ List.zipWith (paint hideStrings) early gap.before →
        paint hideStrings extra gap.added = paint hideStrings own gap.blank := by
    intro word listed ends
    have solid : ∀ word ∈ strictWords, Solid word.toList := by decide
    have same := gap.free.strict word listed (kept word.toList (solid word listed) ends)
    rw [alike same, same]
  refine ⟨⟨List.zipWith (paint hideStrings) early gap.before, paint hideStrings extra gap.added,
    paint hideStrings own gap.blank, List.zipWith (paint hideStrings) late gap.after,
    paint_loose gap.loose hideStrings extra own, ⟨unescaped, strict⟩⟩, ?_, ?_, ?_⟩
  · simp [length]
  · rw [mask, Gap.narrow, narrow, List.zipWith_append length]
    rfl
  · rw [mask, Gap.wide, wide, List.zipWith_append length]
    rfl

theorem Alike.mask {text wide : List Char} (alike : Alike text wide) (language : Option Language)
    (hideStrings : Bool) :
    Alike (Source.mask language hideStrings text) (Source.mask language hideStrings wide) :=
  alike.map fun gap => by
    obtain ⟨masked, -, narrow, wide⟩ := mask_gap language hideStrings gap
    rw [narrow, wide]
    exact .wider masked

section Stripped

variable {language : Option Language}

/-- The text without its comments, read from the given place on. -/
def stripFrom (language : Option Language) (mode : Mode) (text : List Char) : List Char :=
  List.zipWith (paint false) (covers (Dialect.of language) mode text) text

theorem strip_from_cons (mode : Mode) (c : Char) (rest : List Char) :
    stripFrom language mode (c :: rest) =
      paint false (step (Dialect.of language) mode c rest).1 c ::
        stripFrom language (step (Dialect.of language) mode c rest).2 rest := rfl

/-- What is solid at the start of a stripped text was there before. -/
theorem strip_from_begins {mode : Mode} {text word : List Char} (solid : Solid word)
    (shown : word <+: stripFrom language mode text) : word <+: text := by
  have starts := List.prefix_iff_eq_take.mp shown
  rw [stripFrom, List.take_zipWith] at starts
  rw [starts, painted_solid (by simp [covers_length]) (starts ▸ solid)]
  exact List.take_prefix _ _

/-- The place where the reader of the stripped text stands: comments are blank there. -/
def uncommentedMode : Mode → Mode
  | .lineComment => .code
  | .blockOpen => .code
  | .block => .code
  | .blockClose => .code
  | mode => mode

theorem prefix_opening (language : Option Language) {quote : Char} {rest : List Char}
    (there : [quote, quote] <+: rest) :
    [quote, quote] <+: stripFrom language (.opening quote 2) rest ∧
      [quote, quote] <+: stripFrom language (.closing 2) rest := by
  obtain ⟨more, rfl⟩ := there
  exact ⟨⟨stripFrom language (.quoted quote true) more, rfl⟩, ⟨stripFrom language .code more, rfl⟩⟩

/-- In the stripped text `c` shows as it did, and the reader goes on from the place that belongs to
the one it reached in the text itself. -/
def ReadsStripped (language : Option Language) (mode : Mode) (c : Char) (rest : List Char)
    (read : Cover × Mode) : Prop :=
  ∃ shown, step (Dialect.of language) (uncommentedMode mode) (paint false read.1 c)
      (stripFrom language read.2 rest) = (shown, uncommentedMode read.2) ∧
    ∀ hideStrings, paint hideStrings shown (paint false read.1 c) = paint hideStrings read.1 c

theorem comment_stripped {mode next : Mode} (c : Char) (rest : List Char)
    (inCode : uncommentedMode mode = .code) (nextInCode : uncommentedMode next = .code) :
    ReadsStripped language mode c rest (.comment, next) := by
  refine ⟨.code, ?_, fun _ => rfl⟩
  rw [inCode, nextInCode]
  exact step_code_blank (blank_out_blank c) _

theorem head_stripped {rest : List Char} {d : Char} (filled : isBlank d = false)
    (absent : rest.head? ≠ some d) (mode : Mode) :
    (stripFrom language mode rest).head? ≠ some d := by
  intro head
  obtain ⟨more, whole⟩ := List.head?_eq_some_iff.mp head
  obtain ⟨others, source⟩ := strip_from_begins (by simpa [Solid] using filled : Solid [d])
    ⟨more, whole.symm⟩
  exact absent (by rw [← source]; rfl)

/-- Where no comment opens in the text, none opens in the stripped text. -/
theorem step_code_stripped {c : Char} {rest : List Char}
    (line : ¬opensLine (Dialect.of language) c rest = true)
    (block : ¬(!(Dialect.of language).hashComments && c == '/' && rest.head? == some '*') = true)
    (mode : Mode) :
    step (Dialect.of language) .code c (stripFrom language mode rest) =
      if (Dialect.of language).quotes.contains c then
        if (Dialect.of language).hashComments && [c, c].isPrefixOf (stripFrom language mode rest)
        then (.code, .opening c 2)
        else (.code, .quoted c false)
      else (.code, .code) := by
  have lineToo : ¬opensLine (Dialect.of language) c (stripFrom language mode rest) = true := by
    unfold opensLine at line ⊢
    split at line
    · next hash => simpa [hash] using line
    · next hash =>
        simp only [hash, Bool.false_eq_true, if_false, Bool.and_eq_true, beq_iff_eq,
          not_and] at line ⊢
        exact fun slash => head_stripped (by decide) (line slash) mode
  have blockToo : ¬(!(Dialect.of language).hashComments && c == '/' &&
      (stripFrom language mode rest).head? == some '*') = true := by
    simp only [Bool.and_eq_true, beq_iff_eq, not_and] at block ⊢
    exact fun slash => head_stripped (by decide) (block slash) mode
  rw [step_code, if_neg lineToo, if_neg blockToo]

theorem code_stripped (c : Char) (rest : List Char) :
    ReadsStripped language .code c rest (step (Dialect.of language) .code c rest) := by
  rw [step_code]
  split
  · exact comment_stripped c rest rfl rfl
  · next line =>
      split
      · exact comment_stripped c rest rfl rfl
      · next block =>
          have stripped := step_code_stripped line block
          split
          · next quote =>
              have solid := quotes_solid (quotes_are_quotes (List.contains_iff_mem.mp quote))
              split
              · next long =>
                  simp only [Bool.and_eq_true, List.isPrefixOf_iff_prefix] at long
                  have there := List.isPrefixOf_iff_prefix.mpr (prefix_opening language long.2).1
                  refine ⟨.code, (stripped _).trans ?_, fun _ => rfl⟩
                  rw [if_pos quote, if_pos (by rw [long.1, there]; rfl)]
                  rfl
              · next short =>
                  refine ⟨.code, (stripped _).trans ?_, fun _ => rfl⟩
                  rw [if_pos quote, if_neg]
                  · rfl
                  · simp only [Bool.and_eq_true, List.isPrefixOf_iff_prefix, not_and] at short ⊢
                    exact fun hash shown => short hash (strip_from_begins solid shown)
          · next plain => exact ⟨.code, (stripped _).trans (if_neg plain), fun _ => rfl⟩

theorem step_long_string (dialect : Dialect) (quote c : Char) (rest : List Char) :
    step dialect (.quoted quote true) c rest =
      if c == '\\' then (.literal, .escaped quote true)
      else if c == quote && [quote, quote].isPrefixOf rest then (.code, .closing 2)
      else (.literal, .quoted quote true) := rfl

/-- A string shows as it is, but the end of a long one is looked for in the rest. -/
theorem long_string_stripped {quote : Char} (quoted : isQuote quote = true) (c : Char)
    (rest : List Char) :
    ReadsStripped language (.quoted quote true) c rest
      (step (Dialect.of language) (.quoted quote true) c rest) := by
  rw [step_long_string]
  split
  · next escape => exact ⟨.literal, (step_long_string ..).trans (if_pos escape), fun _ => rfl⟩
  · next plain =>
      split
      · next closes =>
          simp only [Bool.and_eq_true, List.isPrefixOf_iff_prefix] at closes
          have there := List.isPrefixOf_iff_prefix.mpr (prefix_opening language closes.2).2
          refine ⟨.code, (step_long_string ..).trans ((if_neg plain).trans (if_pos ?_)),
            fun _ => rfl⟩
          exact Bool.and_eq_true_iff.mpr ⟨closes.1, there⟩
      · next stays =>
          refine ⟨.literal, (step_long_string ..).trans ((if_neg plain).trans (if_neg ?_)),
            fun _ => rfl⟩
          simp only [Bool.and_eq_true, List.isPrefixOf_iff_prefix, not_and] at stays ⊢
          exact fun same shown => stays same (strip_from_begins (quotes_solid quoted) shown)

theorem short_string_stripped (quote c : Char) (rest : List Char) :
    ReadsStripped language (.quoted quote false) c rest
      (step (Dialect.of language) (.quoted quote false) c rest) := by
  cases read : step (Dialect.of language) (.quoted quote false) c rest with
  | mk cover next =>
      have stays : paint false cover c = c ∧ uncommentedMode next = next := by
        simp only [step, Bool.false_eq_true, if_false] at read
        split at read
        · cases read; exact ⟨rfl, rfl⟩
        · split at read
          · cases read; exact ⟨rfl, rfl⟩
          · split at read <;> cases read <;> exact ⟨rfl, rfl⟩
      refine ⟨cover, ?_, ?_⟩
      · rw [stays.1, stays.2]
        exact read
      · intro hideStrings
        rw [stays.1]

/-- One character of the stripped text is read as it is in the text itself. -/
theorem step_stripped (language : Option Language) {mode : Mode} {c : Char} {rest : List Char}
    (ready : Ready mode (c :: rest)) :
    ReadsStripped language mode c rest (step (Dialect.of language) mode c rest) := by
  cases mode with
  | code => exact code_stripped c rest
  | lineComment =>
      simp only [step]
      split
      · next newline =>
          obtain rfl := beq_iff_eq.mp newline
          exact ⟨.code, step_code_blank (by decide) _, fun _ => rfl⟩
      · exact comment_stripped c rest rfl rfl
  | blockOpen => exact comment_stripped c rest rfl rfl
  | block =>
      simp only [step]
      split <;> exact comment_stripped c rest rfl rfl
  | blockClose => exact comment_stripped c rest rfl rfl
  | opening quote left =>
      refine ⟨.code, ?_, fun _ => rfl⟩
      simp only [uncommentedMode, step]
      split <;> rfl
  | closing left =>
      refine ⟨.code, ?_, fun _ => rfl⟩
      simp only [uncommentedMode, step]
      split <;> rfl
  | escaped quote long => exact ⟨.literal, rfl, fun _ => rfl⟩
  | quoted quote long =>
      cases long with
      | false => exact short_string_stripped quote c rest
      | true => exact long_string_stripped ready c rest

theorem mask_stripped_from (hideStrings : Bool) {mode : Mode} {text : List Char}
    (ready : Ready mode text) :
    List.zipWith (paint hideStrings)
        (covers (Dialect.of language) (uncommentedMode mode) (stripFrom language mode text))
        (stripFrom language mode text) =
      List.zipWith (paint hideStrings) (covers (Dialect.of language) mode text) text := by
  induction text generalizing mode with
  | nil => rfl
  | cons c rest induction =>
      obtain ⟨shown, stepped, painted⟩ := step_stripped language ready
      rw [strip_from_cons, covers, stepped, covers, List.zipWith_cons_cons,
        List.zipWith_cons_cons, painted hideStrings, induction (ready_next language ready)]

/-- Masking does not need the comments. -/
theorem mask_stripped (language : Option Language) (hideStrings : Bool) (text : List Char) :
    mask language hideStrings (stripComments language text) = mask language hideStrings text := by
  have ready : Ready .code text := trivial
  exact mask_stripped_from hideStrings ready

end Stripped

end EditImpact.Source
