import EditImpact.Proofs.Signature.ColonParams
import EditImpact.Proofs.Source.GapSearch

/-!
# Canonical forms do not see gaps

Alike texts have the same canonical form, as parameters (`normalize_params_alike`) and as types
(`normalize_type_alike`).
-/

namespace EditImpact.Signature

open Source Text

set_option autoImplicit false

section Ends

theorem last_alike {text wide : List Char} (alike : Alike text wide) :
    text.getLast? = wide.getLast? :=
  alike.congr fun gap => by
    have narrow : gap.narrow.getLast? = (gap.blank :: gap.after).getLast? :=
      List.getLast?_append_of_ne_nil _ (List.cons_ne_nil _ _)
    have wide : gap.wide.getLast? = ([gap.added] ++ gap.blank :: gap.after).getLast? :=
      List.getLast?_append_of_ne_nil gap.before (List.cons_ne_nil _ _)
    rw [narrow, wide, List.getLast?_append_of_ne_nil _ (List.cons_ne_nil _ _)]

/-- A text that does not begin with a blank begins like those alike to it. -/
theorem head_alike {text wide : List Char} (alike : Alike text wide)
    (filled : ∀ c, text.head? = some c → isBlank c = false) : text.head? = wide.head? := by
  cases alike with
  | same text => rfl
  | wider gap =>
      unfold Gap.narrow Gap.wide at *
      cases before : gap.before with
      | nil =>
          have blank := filled gap.blank (by rw [before]; rfl)
          rw [gap.loose.blank_blank] at blank
          cases blank
      | cons c rest => rfl

theorem head_trim_filled (text : List Char) (c : Char) (head : (trim text).head? = some c) :
    isBlank c = false := by
  have kept : trim text <+: trimStart text := by
    rw [← List.reverse_suffix, trim, trimEnd, List.reverse_reverse]
    exact List.dropWhile_suffix _
  obtain ⟨behind, whole⟩ := kept
  have first : (trimStart text).head? = some c := by
    rw [← whole, List.head?_append, head, Option.some_or]
  rw [trimStart, head_drop_blanks] at first
  simpa using List.find?_some first

theorem head_trim_alike {text wide : List Char} (alike : Alike text wide) :
    (trim text).head? = (trim wide).head? :=
  head_alike alike.trim (head_trim_filled text)

/-- Only equal texts are alike to a solid one. -/
theorem alike_solid {text wide : List Char} (alike : Alike text wide) {word : List Char}
    (solid : Solid word) : text = word ↔ wide = word := by
  cases alike with
  | same text => rfl
  | wider gap =>
      have there {text : List Char} (inside : gap.blank ∈ text) : text ≠ word := by
        rintro rfl
        exact ne_of_blank gap.loose.blank_blank (solid gap.blank inside) rfl
      exact ⟨fun same => absurd same (there (by simp [Gap.narrow])),
        fun same => absurd same (there (by simp [Gap.wide]))⟩

theorem after_start_alike {text wide start : List Char} (alike : Alike text wide)
    (solid : Solid start) : OptionAlike (afterStart? start text) (afterStart? start wide) := by
  cases alike with
  | same text =>
      cases afterStart? start text with
      | none => exact .none
      | some rest => exact .some (.same rest)
  | wider gap =>
      rw [Gap.narrow, Gap.wide, after_start_gap solid _ gap.loose.blank_blank,
        after_start_gap solid _ gap.loose.added_blank]
      cases found : afterStart? start gap.before with
      | none => exact .none
      | some rest =>
          have suffix : rest <:+ gap.before := ⟨start, (eq_append_of_after_start found).symm⟩
          exact .some (.wider ⟨rest, gap.added, gap.blank, gap.after, gap.loose,
            gap.free.suffix suffix⟩)

end Ends

theorem cut_top_eq (wanted : Wanted) (text : List Char) :
    cutTop wanted text =
      (takeTop wanted text, (findTop wanted text).map fun index => text.drop (index + 1)) := by
  unfold cutTop takeTop
  cases findTop wanted text <;> rfl

theorem option_alike_some {text wide : Option (List Char)} (alike : OptionAlike text wide) :
    text.isSome = wide.isSome := by
  cases alike <;> rfl

section Colon

theorem split_marker_alike {text wide : List Char} (alike : Alike text wide) :
    (splitMarker text).1 = (splitMarker wide).1 ∧
      Alike (splitMarker text).2 (splitMarker wide).2 := by
  have start {text wide : List Char} (alike : Alike text wide) :
      Alike (trimStart text) (trimStart wide) := alike.map trim_start_alike
  have dots := after_start_alike alike (by decide : Solid "...".toList)
  have stars := after_start_alike alike (by decide : Solid "**".toList)
  have star := after_start_alike alike (by decide : Solid "*".toList)
  unfold splitMarker
  revert dots stars star
  generalize afterStart? "...".toList text = first
  generalize afterStart? "...".toList wide = firstWide
  generalize afterStart? "**".toList text = second
  generalize afterStart? "**".toList wide = secondWide
  generalize afterStart? "*".toList text = third
  generalize afterStart? "*".toList wide = thirdWide
  intro dots stars star
  cases dots with
  | some rest => exact ⟨rfl, start rest⟩
  | none =>
      cases stars with
      | some rest => exact ⟨rfl, start rest⟩
      | none =>
          cases star with
          | some rest => exact ⟨rfl, start rest⟩
          | none => exact ⟨rfl, alike⟩

/-- The text behind one given access word. -/
def behindWord (word : List Char) (text : List Char) : Option (List Char) :=
  match afterStart? word text with
  | some (c :: rest) => if isBlank c then some (trimStart rest) else none
  | _ => none

theorem after_access_word_eq (text : List Char) :
    afterAccessWord? text = accessWords.findSome? fun word => behindWord word.toList text := rfl

theorem behind_word_alike {text wide word : List Char} (alike : Alike text wide)
    (solid : Solid word) : OptionAlike (behindWord word text) (behindWord word wide) := by
  have same (found : Option (List Char)) : OptionAlike found found := by
    cases found with
    | none => exact .none
    | some rest => exact .some (.same rest)
  cases alike with
  | same text => exact same _
  | wider gap =>
      unfold behindWord
      rw [Gap.narrow, Gap.wide, after_start_gap solid _ gap.loose.blank_blank,
        after_start_gap solid _ gap.loose.added_blank]
      cases found : afterStart? word gap.before with
      | none => exact .none
      | some rest =>
          cases rest with
          | nil =>
              simp only [Option.map_some, List.nil_append, gap.loose.blank_blank,
                gap.loose.added_blank, if_true, trim_start_cons gap.loose.blank_blank]
              exact .some (.same _)
          | cons c rest =>
              simp only [Option.map_some, List.cons_append]
              split
              · have suffix : rest <:+ gap.before := by
                  rw [eq_append_of_after_start found]
                  exact (List.suffix_cons c rest).trans (List.suffix_append word (c :: rest))
                exact .some (trim_start_alike ⟨rest, gap.added, gap.blank, gap.after, gap.loose,
                  gap.free.suffix suffix⟩)
              · exact .none

theorem after_access_word_alike {text wide : List Char} (alike : Alike text wide) :
    OptionAlike (afterAccessWord? text) (afterAccessWord? wide) := by
  have solid : ∀ word ∈ accessWords, Solid word.toList := by decide
  rw [after_access_word_eq, after_access_word_eq]
  revert solid
  generalize accessWords = words
  intro solid
  induction words with
  | nil => exact .none
  | cons word words induction =>
      have here := behind_word_alike alike (solid word List.mem_cons_self)
      have later := induction fun other member => solid other (List.mem_cons_of_mem word member)
      simp only [List.findSome?_cons]
      revert here
      generalize behindWord word.toList text = found
      generalize behindWord word.toList wide = foundWide
      intro here
      cases here with
      | none => exact later
      | some rest => exact .some rest

theorem after_access_word_shorter {text rest : List Char}
    (found : afterAccessWord? text = some rest) : rest.length < text.length := by
  obtain ⟨word, -, c, more, -, rfl, rfl⟩ := after_access_word_eq_some found
  have shorter : (trimStart more).length ≤ more.length := (List.dropWhile_suffix _).length_le
  simp only [List.length_append, List.length_singleton]
  omega

/-- As many words may be dropped as the text has characters, so none is left. -/
theorem drop_access_words_eq {count : Nat} {text : List Char} (enough : text.length ≤ count) :
    dropAccessWords count text =
      match afterAccessWord? text with
      | some rest => dropAccessWords (count - 1) rest
      | none => text := by
  cases count with
  | zero =>
      obtain rfl := List.eq_nil_of_length_eq_zero (Nat.le_zero.mp enough)
      rfl
  | succ count => rfl

theorem drop_access_words_alike {count countWide : Nat} {text wide : List Char}
    (alike : Alike text wide) (enough : text.length ≤ count) (enoughWide : wide.length ≤ countWide) :
    Alike (dropAccessWords count text) (dropAccessWords countWide wide) := by
  induction count generalizing text wide countWide with
  | zero =>
      obtain rfl := List.eq_nil_of_length_eq_zero (Nat.le_zero.mp enough)
      have same := (alike_solid alike (by decide : Solid [])).mp rfl
      subst same
      rw [drop_access_words_eq enough, drop_access_words_eq enoughWide]
      exact .same _
  | succ count induction =>
      have found := after_access_word_alike alike
      have shorter {rest : List Char} (found : afterAccessWord? text = some rest) :=
        after_access_word_shorter found
      have shorterWide {rest : List Char} (found : afterAccessWord? wide = some rest) :=
        after_access_word_shorter found
      rw [drop_access_words_eq enough, drop_access_words_eq enoughWide]
      revert found shorter shorterWide
      generalize afterAccessWord? text = first
      generalize afterAccessWord? wide = second
      intro found shorter shorterWide
      cases found with
      | none => exact alike
      | some rest =>
          have less := shorter rfl
          have lessWide := shorterWide rfl
          exact induction rest (by omega) (by omega)

theorem drop_trailing_alike {c : Char} (filled : isBlank c = false) {text wide : List Char}
    (alike : Alike text wide) : Alike (dropTrailing c text) (dropTrailing c wide) :=
  alike.map fun gap => by
    have other : gap.blank ≠ c := ne_of_blank gap.loose.blank_blank filled
    have cut (left : List Char) : dropTrailing c (left ++ gap.blank :: gap.after) =
        left ++ gap.blank :: dropTrailing c gap.after := by
      simp only [dropTrailing, List.reverse_append, List.reverse_cons, List.append_assoc]
      rw [List.dropWhile_append]
      split
      · next empty =>
          rw [List.isEmpty_iff.mp empty]
          simp [other]
      · simp
    have wide : gap.wide = gap.before ++ [gap.added] ++ gap.blank :: gap.after := by
      simp [Gap.wide]
    rw [Gap.narrow, wide, cut, cut, List.append_assoc]
    exact .wider ⟨gap.before, gap.added, gap.blank, dropTrailing c gap.after, gap.loose,
      gap.free⟩

theorem type_text_alike {text wide : Option (List Char)} (alike : OptionAlike text wide) :
    Alike ((text.map trim).getD []) ((wide.map trim).getD []) := by
  cases alike with
  | none => exact .same _
  | some alike => exact alike.trim

theorem summary_alike {text wide : List Char} (alike : Alike text wide) :
    summary text = summary wide := by
  obtain ⟨bare, fallback⟩ := parts_alike steady_assign alike
  obtain ⟨name, type⟩ := parts_alike steady_colon bare
  have plain := drop_trailing_alike (c := '?') (by decide) name.trim
  have typeText := type_text_alike type
  simp only [summary, cut_top_eq, option_alike_some fallback, typeText.collapse,
    alike_empty typeText, head_trim_alike plain, plain.trim.collapse, last_alike name.trim]

theorem normalize_colon_eq (language : Option Language) (param : List Char) :
    normalizeColon language param =
      if language == some .rust && receivers.any (·.toList == collapse (trim param)) then
        collapse (trim param)
      else if trim param == ['*'] || trim param == ['/'] then trim param
      else (splitMarker (trim param)).1 ++
        summary (dropAccessWords (splitMarker (trim param)).2.length
          (splitMarker (trim param)).2) := by
  simp only [normalizeColon, summary, List.append_assoc]

theorem normalize_colon_alike (language : Option Language) {text wide : List Char}
    (alike : Alike text wide) : normalizeColon language text = normalizeColon language wide := by
  obtain ⟨marker, named⟩ := split_marker_alike alike.trim
  have star := alike_solid alike.trim (by decide : Solid ['*'])
  have slash := alike_solid alike.trim (by decide : Solid ['/'])
  rw [normalize_colon_eq, normalize_colon_eq, alike.trim.collapse, marker,
    summary_alike (drop_access_words_alike named (Nat.le_refl _) (Nat.le_refl _))]
  split
  · rfl
  · by_cases first : trim text = ['*']
    · rw [first, star.mp first]
    · by_cases second : trim text = ['/']
      · rw [second, slash.mp second]
      · have firstToo : trim wide ≠ ['*'] := fun same => first (star.mpr same)
        have secondToo : trim wide ≠ ['/'] := fun same => second (slash.mpr same)
        simp [first, second, firstToo, secondToo]

end Colon

theorem normalize_type_first_alike {text wide : List Char} (alike : Alike text wide) :
    normalizeTypeFirst text = normalizeTypeFirst wide := by
  obtain ⟨bare, fallback⟩ := parts_alike steady_assign alike.trim
  simp only [normalizeTypeFirst, cut_top_eq, bare.words, option_alike_some fallback]

theorem normalize_name_first_alike {text wide : List Char} (alike : Alike text wide) :
    normalizeNameFirst text = normalizeNameFirst wide := by
  simp only [normalizeNameFirst, alike.words]

theorem normalize_param_alike (language : Option Language) {text wide : List Char}
    (alike : Alike text wide) : normalizeParam language text = normalizeParam language wide := by
  unfold normalizeParam
  split
  · exact normalize_colon_alike language alike
  · exact normalize_type_first_alike alike
  · exact normalize_name_first_alike alike

/-- A gap inside parentheses is not at their ends. -/
theorem inside_parens_alike {text wide : List Char} (alike : Alike text wide)
    (opens : wide.head? = some '(') (closes : wide.getLast? = some ')') :
    Alike text.tail.dropLast wide.tail.dropLast := by
  cases alike with
  | same text => exact .same _
  | wider gap =>
      have blank := gap.loose.blank_blank
      cases start : gap.before with
      | nil =>
          rw [Gap.wide, start] at opens
          exact absurd (Option.some.inj opens) (ne_of_blank gap.loose.added_blank (by decide))
      | cons c before =>
          have filled : gap.after ≠ [] := by
            intro empty
            rw [Gap.wide, empty, List.getLast?_append_of_ne_nil _ (List.cons_ne_nil _ _)] at closes
            exact absurd (Option.some.inj closes) (ne_of_blank blank (by decide))
          have ends : (gap.blank :: gap.after).dropLast = gap.blank :: gap.after.dropLast :=
            List.dropLast_cons_of_ne_nil filled
          have narrow : gap.narrow.tail.dropLast = before ++ gap.blank :: gap.after.dropLast := by
            rw [Gap.narrow, start, List.cons_append, List.tail_cons,
              List.dropLast_append_of_ne_nil (List.cons_ne_nil _ _), ends]
          have wide : gap.wide.tail.dropLast =
              before ++ gap.added :: gap.blank :: gap.after.dropLast := by
            rw [Gap.wide, start, List.cons_append, List.tail_cons,
              List.dropLast_append_of_ne_nil (List.cons_ne_nil _ _),
              List.dropLast_cons_of_ne_nil (List.cons_ne_nil _ _), ends]
          rw [narrow, wide]
          exact .wider ⟨before, gap.added, gap.blank, gap.after.dropLast, gap.loose,
            gap.free.suffix (start ▸ List.suffix_cons c before)⟩

theorem without_parens_alike {text wide : List Char} (alike : Alike text wide) :
    Alike (withoutParens (trim text)) (withoutParens (trim wide)) := by
  unfold withoutParens
  rw [head_trim_alike alike, last_alike alike.trim]
  split
  · next parens =>
      simp only [Bool.and_eq_true, beq_iff_eq] at parens
      exact inside_parens_alike alike.trim parens.1 parens.2
  · exact alike.trim

theorem normalize_params_alike (language : Option Language) {text wide : List Char}
    (alike : Alike text wide) : normalizeParams language text = normalizeParams language wide := by
  have inner := without_parens_alike (alike.mask language false)
  exact congrArg (joinWith [','])
    (split_top_alike (fun piece => normalize_param_alike language piece.trim) inner)

theorem normalize_type_alike (language : Option Language) {text wide : List Char}
    (alike : Alike text wide) : normalizeType language text = normalizeType language wide := by
  have same := (alike.mask language false).collapse
  simp only [normalizeType, stripComments, same]

end EditImpact.Signature
