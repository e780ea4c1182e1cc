import EditImpact.Proofs.Signature.GapParams
import EditImpact.Proofs.Signature.ReturnType

/-!
# Return types and gaps

What follows the parameters is read alike in the narrow and in the wide text (`read_tail_alike`). Two
readers see blanks: the one that ends a return type at the end of a line, and the one that looks for
the word `where` between spaces.
-/

namespace EditImpact.Signature

open Source Text

set_option autoImplicit false

section Lines

theorem mask_append_blank (language : Option Language) (hideStrings : Bool) (text : List Char)
    {c : Char} (blank : isBlank c = true) :
    ∃ d, isBlank d = true ∧
      mask language hideStrings (text ++ [c]) = mask language hideStrings text ++ [d] := by
  have read (mode : Mode) (ready : Ready mode (text ++ [c])) :
      ∃ cover, covers (Dialect.of language) mode (text ++ [c]) =
        covers (Dialect.of language) mode text ++ [cover] := by
    induction text generalizing mode with
    | nil => exact ⟨_, rfl⟩
    | cons d text induction =>
        have same := step_before_blank language d text [] blank ready
        rw [List.cons_append] at ready
        have next := ready_next language ready
        rw [same] at next
        obtain ⟨cover, later⟩ := induction _ next
        exact ⟨cover, by simp only [List.cons_append, covers, same, later]⟩
  obtain ⟨cover, same⟩ := read .code trivial
  refine ⟨paint hideStrings cover c, ?_, ?_⟩
  · rcases paint_cases hideStrings cover c with kept | hidden
    · rw [kept, blank]
    · rw [hidden, blank_out_blank]
  · rw [mask, same, List.zipWith_append (covers_length _ _ _)]
    rfl

theorem normalize_type_append_blank (language : Option Language) (text : List Char) {c : Char}
    (blank : isBlank c = true) :
    normalizeType language (text ++ [c]) = normalizeType language text := by
  obtain ⟨d, blankToo, same⟩ := mask_append_blank language false text blank
  have trailing : AllBlank [d] := by simpa [AllBlank] using blankToo
  have collapsed := collapse_around all_blank_nil trailing (mask language false text)
  rw [List.nil_append] at collapsed
  simp only [normalizeType, stripComments, same, collapsed]

theorem ends_return_blank {c : Char} (blank : isBlank c = true) (within : c ≠ '\n')
    (last : Option Char) (rest : List Char) : endsReturn last c rest = false := by
  have brace : c ≠ '\x7b' := ne_of_blank blank (by decide)
  have semicolon : c ≠ ';' := ne_of_blank blank (by decide)
  have equals : c ≠ '=' := ne_of_blank blank (by decide)
  simp [endsReturn, isAnyOf, isArrow, brace, semicolon, equals, within]

theorem ends_return_newline (last : Option Char) (rest : List Char) :
    endsReturn last '\n' rest = true := by
  simp [endsReturn, isAnyOf]

theorem find_return_at_gap {added blank : Char} (loose : Loose added blank) (after : List Char)
    {place : Place} (quoting : place.Quoting) :
    findFrom endsReturn place (added :: blank :: after) =
        (findFrom endsReturn place (blank :: after)).map (shiftAt 0) ∨
      (blank = '\n' ∧ findFrom endsReturn place (blank :: after) = some 0 ∧
        findFrom endsReturn place (added :: blank :: after) = some 1) := by
  have quoteAdded := (blank_plain loose.added_blank).1
  have quoteBlank := (blank_plain loose.blank_blank).1
  have outside : (place.next added).isTop = place.isTop := by
    rw [Place.next_blank quoting loose.added_blank]
    rfl
  simp only [findFrom, quoteAdded, quoteBlank, outside, Place.next_gap quoting loose,
    Bool.not_false, Bool.and_true]
  by_cases line : blank = '\n'
  · subst line
    simp only [ends_return_newline, Bool.and_true]
    cases top : place.isTop with
    | false =>
        left
        simp only [Bool.false_and, Bool.false_eq_true, if_false, Option.map_map]
        exact congrArg (Option.map · _) (funext fun index => by simp [shiftAt])
    | true =>
        by_cases newline : added = '\n'
        · left
          simp [newline, ends_return_newline, shiftAt]
        · right
          simp [ends_return_blank loose.added_blank newline]
  · left
    have other : added ≠ '\n' := fun newline => line (loose.newline newline)
    simp only [ends_return_blank loose.added_blank other, ends_return_blank loose.blank_blank line,
      Bool.and_false, Bool.false_eq_true, if_false, Option.map_map]
    exact congrArg (Option.map · _) (funext fun index => by simp [shiftAt])

/-- A return type ends at the same place, or at the end of a line that has one more blank. -/
theorem find_return_gap {added blank : Char} (loose : Loose added blank) (after before : List Char)
    {place : Place} (quoting : place.Quoting) :
    findFrom endsReturn place (before ++ added :: blank :: after) =
        (findFrom endsReturn place (before ++ blank :: after)).map (shiftAt before.length) ∨
      (blank = '\n' ∧ findFrom endsReturn place (before ++ blank :: after) = some before.length ∧
        findFrom endsReturn place (before ++ added :: blank :: after) =
          some (before.length + 1)) := by
  induction before generalizing place with
  | nil => exact find_return_at_gap loose after quoting
  | cons c before induction =>
      have near : endsReturn place.last c (before ++ blank :: after) =
          endsReturn place.last c (before ++ added :: blank :: after) := by
        have first := head_before_blank loose.blank_blank (d := '>') (by decide) before after
        have second := head_before_blank loose.added_blank (d := '>') (by decide) before
          (blank :: after)
        simp only [endsReturn, isArrow, isAnyOf, first, second]
      simp only [List.cons_append, findFrom, near]
      split
      · left
        rfl
      · rcases induction (Place.quoting_next quoting c) with same | ⟨line, found, wide⟩
        · left
          rw [same, Option.map_map, Option.map_map]
          exact congrArg (Option.map · _) (funext fun index => (shift_at_succ _ index).symm)
        · right
          exact ⟨line, by rw [found]; rfl, by rw [wide]; rfl⟩

end Lines

section Where

theorem prefix_append (start more text : List Char) :
    (start ++ more).isPrefixOf text = (afterStart? start text).any more.isPrefixOf := by
  induction start generalizing text with
  | nil => rfl
  | cons c start induction =>
      cases text with
      | nil => rfl
      | cons d text =>
          rw [List.cons_append, List.isPrefixOf_cons_cons, induction, afterStart?]
          cases c == d <;> rfl

/-- The word `where` between spaces is seen across a gap: behind the word the blanks of a gap are
the same. -/
theorem where_prefix_gap {added blank c : Char} {before : List Char} (after : List Char)
    (loose : Loose added blank) (free : Free (c :: before) added blank) :
    " where ".toList.isPrefixOf (c :: before ++ blank :: after) =
      " where ".toList.isPrefixOf (c :: before ++ added :: blank :: after) := by
  have word (text : List Char) : " where ".toList.isPrefixOf (c :: text) =
      (' ' == c && (afterStart? "where".toList text).any [' '].isPrefixOf) := by
    have parts : " where ".toList = ' ' :: ("where".toList ++ [' ']) := rfl
    rw [parts, List.isPrefixOf_cons_cons, prefix_append]
  rw [List.cons_append, List.cons_append, word, word,
    after_start_gap (by decide) before loose.blank_blank,
    after_start_gap (by decide) before loose.added_blank]
  cases found : afterStart? "where".toList before with
  | none => rfl
  | some rest =>
      cases rest with
      | nil =>
          have ends : "where".toList <:+ c :: before := by
            rw [eq_append_of_after_start found, List.append_nil]
            exact List.suffix_cons c _
          rw [free.strict "where" (by decide) ends]
          rfl
      | cons d rest => rfl

theorem index_where_gap {added blank : Char} (loose : Loose added blank) (after : List Char)
    {before : List Char} (free : Free before added blank) :
    indexOf " where ".toList (before ++ added :: blank :: after) =
        (indexOf " where ".toList (before ++ blank :: after)).map (shiftAt before.length) ∨
      (indexOf " where ".toList (before ++ blank :: after) = some before.length ∧
        indexOf " where ".toList (before ++ added :: blank :: after) =
          some (before.length + 1)) := by
  induction before with
  | nil =>
      have other : 'w' ≠ blank := (ne_of_blank loose.blank_blank (by decide)).symm
      -- the word does not begin at the added blank, since a blank follows there
      have absent : " where ".toList.isPrefixOf (added :: blank :: after) = false := by
        have parts : " where ".toList = ' ' :: 'w' :: "here ".toList := rfl
        rw [parts, List.isPrefixOf_cons_cons, List.isPrefixOf_cons_cons,
          beq_eq_false_iff_ne.mpr other, Bool.false_and, Bool.and_false]
      have spread : indexOf " where ".toList (added :: blank :: after) =
          (indexOf " where ".toList (blank :: after)).map (· + 1) := by
        rw [indexOf, absent, if_neg Bool.false_ne_true]
      rw [List.nil_append, List.nil_append, spread]
      cases indexOf " where ".toList (blank :: after) with
      | none => exact .inl rfl
      | some index =>
          cases index with
          | zero => exact .inr ⟨rfl, rfl⟩
          | succ index => exact .inl rfl
  | cons c before induction =>
      have same := where_prefix_gap after loose free
      rw [List.cons_append, List.cons_append] at same
      rw [List.cons_append, List.cons_append, indexOf, indexOf, same]
      split
      · exact .inl rfl
      · rcases induction (free.suffix (List.suffix_cons c before)) with shifted | ⟨found, wide⟩
        · left
          rw [shifted, Option.map_map, Option.map_map]
          exact congrArg (Option.map · _) (funext fun index => (shift_at_succ _ index).symm)
        · right
          exact ⟨by rw [found]; rfl, by rw [wide]; rfl⟩

/-- The text before `where` is alike but for blanks at its end. -/
theorem before_where_alike {text wide : List Char} (alike : Alike text wide) :
    Alike (trim (beforeWhere text)) (trim (beforeWhere wide)) := by
  cases alike with
  | same text => exact .same _
  | wider gap =>
      rcases index_where_gap gap.loose gap.after gap.free with shifted | ⟨found, wide⟩
      · have same : indexOf " where ".toList gap.wide =
            (indexOf " where ".toList gap.narrow).map gap.shift := shifted
        unfold beforeWhere
        rw [same]
        cases indexOf " where ".toList gap.narrow with
        | none => exact (Alike.wider gap).trim
        | some index => exact (take_alike gap index).trim
      · have narrow : beforeWhere gap.narrow = gap.before := by
          rw [beforeWhere, Gap.narrow, found]
          exact List.take_left
        have ends : beforeWhere gap.wide = gap.before ++ [gap.added] := by
          rw [beforeWhere, Gap.wide, wide]
          exact List.take_length_add_append 1
        have blank : AllBlank [gap.added] := by simpa [AllBlank] using gap.loose.added_blank
        rw [narrow, ends, trim_append_blanks blank]
        exact .same _

end Where

section Tails

theorem starts_alike {text wide start : List Char} (alike : Alike text wide) (solid : Solid start) :
    startsWith start text = startsWith start wide :=
  alike.congr fun gap => by
    rw [startsWith, startsWith, Gap.narrow, Gap.wide,
      prefix_before_blank solid gap.loose.blank_blank,
      prefix_before_blank solid gap.loose.added_blank]

/-- Read alike: the same canonical return type, and the same answer about the arrow. -/
def Tail.Alike (language : Option Language) (tail wide : Tail) : Prop :=
  normalizeType language tail.returned = normalizeType language wide.returned ∧
    tail.arrow = wide.arrow

theorem take_colon_arrow (text : List Char) :
    ∃ rest, takeTop (isAnyOf [':']) ('-' :: '>' :: text) = '-' :: '>' :: rest := by
  have found : findTop (isAnyOf [':']) ('-' :: '>' :: text) =
      ((findFrom (isAnyOf [':']) ⟨0, none, some '>'⟩ text).map (· + 1)).map (· + 1) := rfl
  unfold takeTop
  rw [found]
  cases findFrom (isAnyOf [':']) ⟨0, none, some '>'⟩ text with
  | none => exact ⟨text, rfl⟩
  | some index => exact ⟨text.take index, rfl⟩

theorem arrow_tail_alike (language : Option Language) {text wide : List Char}
    (alike : Source.Alike text wide) :
    Tail.Alike language (readTail .arrowThenColon text) (readTail .arrowThenColon wide) := by
  have start : Source.Alike (trimStart text) (trimStart wide) := alike.map trim_start_alike
  have cut := take_top_alike (steady_any_of (by decide : Solid [':'])) start
  have same := starts_alike start (by decide : Solid ['-', '>'])
  simp only [readTail, same]
  split
  · next arrow =>
      obtain ⟨rest, whole⟩ := List.isPrefixOf_iff_prefix.mp (same.trans arrow)
      obtain ⟨restWide, wholeWide⟩ := List.isPrefixOf_iff_prefix.mp arrow
      rw [← whole, ← wholeWide] at cut ⊢
      obtain ⟨more, taken⟩ := take_colon_arrow rest
      obtain ⟨moreWide, takenWide⟩ := take_colon_arrow restWide
      simp only [List.cons_append, List.nil_append] at cut ⊢
      rw [taken, takenWide] at cut ⊢
      have behind : OptionAlike (some more) (some moreWide) :=
        after_start_alike cut (by decide : Solid ['-', '>'])
      cases behind with
      | some alike => exact ⟨normalize_type_alike language alike, rfl⟩
  · exact ⟨rfl, rfl⟩

theorem body_tail_alike (language : Option Language) {text wide : List Char}
    (alike : Source.Alike text wide) :
    Tail.Alike language (readTail .beforeBody text) (readTail .beforeBody wide) := by
  have start : Source.Alike (trimStart text) (trimStart wide) := alike.map trim_start_alike
  have cut := take_top_alike (steady_any_of (by decide : Solid ['\x7b', ';'])) start
  have body := before_where_alike cut
  have arrow := after_start_alike body (by decide : Solid ['-', '>'])
  simp only [readTail]
  revert arrow
  generalize afterStart? ['-', '>'] _ = found
  generalize afterStart? ['-', '>'] _ = foundWide
  intro arrow
  cases arrow with
  | none => exact ⟨normalize_type_alike language body, rfl⟩
  | some rest => exact ⟨normalize_type_alike language rest, rfl⟩

/-- What a colon behind the parameters is followed by. -/
def colonTail (body : List Char) : Tail where
  returned := takeTop endsReturn body
  arrow := startsWith ['=', '>'] (body.drop (takeTop endsReturn body).length)

theorem drop_taken (text : List Char) (index : Nat) :
    text.drop (text.take index).length = text.drop index := by
  rw [List.length_take]
  rcases Nat.le_total index text.length with within | beyond
  · rw [Nat.min_eq_left within]
  · rw [Nat.min_eq_right beyond, List.drop_length, List.drop_eq_nil_of_le beyond]

theorem colon_tail_alike (language : Option Language) {text wide : List Char}
    (alike : Source.Alike text wide) : Tail.Alike language (colonTail text) (colonTail wide) := by
  cases alike with
  | same text => exact ⟨rfl, rfl⟩
  | wider gap =>
      rcases find_return_gap gap.loose gap.after gap.before Place.quoting_start with
        shifted | ⟨line, found, wide⟩
      · have same : findTop endsReturn gap.wide = (findTop endsReturn gap.narrow).map gap.shift :=
          shifted
        unfold colonTail takeTop
        rw [same]
        cases cut : findTop endsReturn gap.narrow with
        | none =>
            simp only [Option.map_none, List.drop_length]
            exact ⟨normalize_type_alike language (.wider gap), rfl⟩
        | some index =>
            simp only [Option.map_some, drop_taken]
            exact ⟨normalize_type_alike language (take_alike gap index),
              starts_alike (drop_alike gap index) (by decide)⟩
      · have narrow : findTop endsReturn gap.narrow = some gap.before.length := found
        have wider : findTop endsReturn gap.wide = some (gap.before.length + 1) := wide
        have cut : gap.narrow.take gap.before.length = gap.before := List.take_left
        have cutWide : gap.wide.take (gap.before.length + 1) = gap.before ++ [gap.added] :=
          List.take_length_add_append 1
        have behind : gap.narrow.drop gap.before.length = gap.blank :: gap.after := List.drop_left
        have behindWide : gap.wide.drop (gap.before.length + 1) = gap.blank :: gap.after :=
          List.drop_length_add_append 1
        unfold colonTail takeTop
        simp only [narrow, wider, drop_taken]
        rw [behind, behindWide, cut, cutWide]
        exact ⟨(normalize_type_append_blank language gap.before gap.loose.added_blank).symm, rfl⟩

theorem read_colon_eq {kind : HeaderKind} (python : kind ≠ .arrowThenColon)
    (braces : kind ≠ .beforeBody) (text : List Char) :
    readTail kind text =
      match afterStart? [':'] (trimStart text) with
      | some body => colonTail body
      | none => ⟨[], startsWith ['=', '>'] (trimStart text)⟩ := by
  have colon : readTail kind text = readTail .colonThenBody text := by
    cases kind with
    | arrowThenColon => exact absurd rfl python
    | beforeBody => exact absurd rfl braces
    | beforeName => rfl
    | colonThenBody => rfl
    | boundValue => rfl
  rw [colon]
  simp only [readTail]
  cases trimStart text with
  | nil => rfl
  | cons c rest =>
      by_cases here : c = ':'
      · subst here
        rfl
      · have passed : afterStart? [':'] (c :: rest) = none :=
          after_start_of_head fun head => here (Option.some.inj head)
        rw [passed]
        split
        · next same => exact absurd (List.cons.inj same).1 here
        · rfl

/-- What follows the parameters is read alike. -/
theorem read_tail_alike (language : Option Language) (kind : HeaderKind) {text wide : List Char}
    (alike : Source.Alike text wide) :
    Tail.Alike language (readTail kind text) (readTail kind wide) := by
  by_cases arrow : kind = .arrowThenColon
  · rw [arrow]
    exact arrow_tail_alike language alike
  · by_cases body : kind = .beforeBody
    · rw [body]
      exact body_tail_alike language alike
    · have start : Source.Alike (trimStart text) (trimStart wide) := alike.map trim_start_alike
      have colon := after_start_alike start (by decide : Solid [':'])
      rw [read_colon_eq arrow body, read_colon_eq arrow body,
        starts_alike start (by decide : Solid ['=', '>'])]
      revert colon
      generalize afterStart? [':'] _ = found
      generalize afterStart? [':'] _ = foundWide
      intro colon
      cases colon with
      | none => exact ⟨rfl, rfl⟩
      | some body => exact colon_tail_alike language body

end Tails

end EditImpact.Signature
