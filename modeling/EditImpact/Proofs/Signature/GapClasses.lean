import EditImpact.Proofs.Signature.GapExtract

/-!
# Contracts of classes do not see gaps

A class is its heritage clause and its constructor, which is looked for between the heritage clause
and the next class. All three places shift with a gap, so the contract stays (`class_in_alike`).
-/

namespace EditImpact.Signature

open Pattern Source Text

set_option autoImplicit false

/-- The offset at which the class whose body begins at `bodyStart` ends at the latest. -/
def bodyEnd (masked : List Char) (bodyStart : Nat) : Nat :=
  match anyClass.searchAt ((Cursor.start masked).advance (bodyStart + 1)) with
  | some other => other.start
  | none => masked.length

/-- The constructor that is found between two offsets. -/
def constructorBetween (language : Option Language) (code masked : List Char)
    (bodyStart bodyEnd : Nat) : List Char :=
  match (constructorHeader language).searchAt
      ((Cursor.start (masked.take bodyEnd)).advance bodyStart) with
  | none => []
  | some found =>
    match parenthesized (code.drop (found.stop - 1)) with
    | none => []
    | some (params, _) => build (normalizeParams language params) []

/-- The contract of a class in writing. -/
def classText (heritage constructor : List Char) : List Char :=
  "class".toList ++ (if heritage.isEmpty then [] else ' ' :: heritage) ++
    (if constructor.isEmpty then [] else " new".toList ++ constructor)

/-- How far the heritage clause reaches at the start of a text. -/
def headLength (language : Option Language) (rest : List Char) : Nat :=
  (findTop (heritageStop language) rest).getD 0

/-- The contract of the first class called `name` in a text without comments. -/
def classIn (language : Option Language) (name code : List Char) : Option (List Char) :=
  let masked := mask language true code
  ((classHeader language name).search masked).map fun header =>
    let rest := code.drop header.stop
    let bodyStart := header.stop + headLength language rest
    classText (collapse (rest.take (headLength language rest)))
      (constructorBetween language code masked bodyStart (bodyEnd masked bodyStart))

section Found

theorem search_at_result {pattern : Pattern} {cursor : Cursor} {found : Match}
    (result : pattern.searchAt cursor = some found) :
    ∃ start : Cursor, start.offset + start.rest.length = cursor.offset + cursor.rest.length ∧
      pattern.matchAt start = some found := by
  obtain ⟨last, rest, offset⟩ := cursor
  induction rest generalizing last offset with
  | nil => exact ⟨_, rfl, result⟩
  | cons c rest induction =>
      have step : pattern.searchAt ⟨last, c :: rest, offset⟩ =
          (pattern.matchAt ⟨last, c :: rest, offset⟩ <|>
            pattern.searchAt ⟨some c, rest, offset + 1⟩) := rfl
      rw [step] at result
      cases here : pattern.matchAt ⟨last, c :: rest, offset⟩ with
      | some other =>
          rw [here] at result
          exact ⟨_, rfl, here.trans result⟩
      | none =>
          rw [here] at result
          obtain ⟨start, total, there⟩ := induction _ _ result
          exact ⟨start, by simp only [List.length_cons] at total ⊢; omega, there⟩

/-- A match that ends in a character ends behind the start of the text and not behind its end. -/
theorem search_stop_bounds {first : Pattern} {set : CharSet} {cursor : Cursor} {found : Match}
    (result : (first ++ char set).searchAt cursor = some found) :
    0 < found.stop ∧ found.stop ≤ cursor.offset + cursor.rest.length := by
  obtain ⟨start, total, there⟩ := search_at_result result
  obtain ⟨⟨⟨last, rest, offset⟩, captured⟩, ahead, read⟩ :
      ∃ reached, Progress.Ahead ⟨start, none⟩ reached ∧
        (char set).run reached (finish start) = some found := run_result there
  cases rest with
  | nil => cases read
  | cons c rest =>
      rw [run_char] at read
      split at read
      · have whole := ahead.total
        cases read
        simp only [List.length_cons] at whole ⊢
        omega
      · cases read

theorem constructor_stop_bounds {language : Option Language} {cursor : Cursor} {found : Match}
    (result : (constructorHeader language).searchAt cursor = some found) :
    0 < found.stop ∧ found.stop ≤ cursor.offset + cursor.rest.length := by
  unfold constructorHeader at result
  split at result <;> exact search_stop_bounds result

end Found

section Text

/-- The parameters of a constructor reach from the last character of its header on. -/
theorem constructor_between_eq (language : Option Language) (code masked : List Char)
    (bodyStart stop : Nat) :
    constructorBetween language code masked bodyStart stop =
      match (constructorHeader language).searchAt
          ((Cursor.start (masked.take stop)).advance bodyStart) with
      | none => []
      | some found =>
        match closingParen code (found.stop - 1) with
        | none => []
        | some closing =>
          build (normalizeParams language
            ((code.drop (found.stop - 1)).take (closing + 2 - found.stop))) [] := by
  unfold constructorBetween
  split
  · rfl
  · next found result =>
      have positive := (constructor_stop_bounds result).1
      rw [closing_paren_parts]
      cases closingParen code (found.stop - 1) with
      | none => rfl
      | some closing =>
          have count : closing + 1 - (found.stop - 1) = closing + 2 - found.stop := by omega
          simp only [Option.map_some, count]

theorem of_class_eq (language : Option Language) (name text : List Char) :
    ofClass language name text = classIn language name (stripComments language text) := by
  unfold ofClass classIn
  rw [mask_stripped]
  simp only
  cases (classHeader language name).search (mask language true text) with
  | none => rfl
  | some header =>
      simp only [Option.map_some, constructor_between_eq, bodyEnd, mask_length]
      rfl

end Text

section Places

variable {gap : Gap}

/-- The heritage clause is the same, and the body of the class begins at the same place. -/
theorem head_length_alike (language : Option Language) (gap : Gap) (stop : Nat) :
    gap.shift stop + headLength language (gap.wide.drop (gap.shift stop)) =
        gap.shift (stop + headLength language (gap.narrow.drop stop)) ∧
      Alike ((gap.narrow.drop stop).take (headLength language (gap.narrow.drop stop)))
        ((gap.wide.drop (gap.shift stop)).take
          (headLength language (gap.wide.drop (gap.shift stop)))) := by
  have solid : Solid [if language == some .python then ':' else '\x7b', ';'] := by
    split <;> decide
  have steady : Wanted.Steady (heritageStop language) := steady_any_of solid
  by_cases within : stop ≤ gap.before.length
  · have here : gap.shift stop = stop := if_pos within
    have length : (gap.drop stop).before.length = gap.before.length - stop := List.length_drop
    obtain ⟨narrow, wide⟩ := drop_within within
    rw [here, narrow, wide]
    unfold headLength
    rw [(find_top_gap steady (gap.drop stop)).1]
    cases findTop (heritageStop language) (gap.drop stop).narrow with
    | none =>
        simp only [Option.map_none, Option.getD_none, List.take_zero, Nat.add_zero, here, true_and]
        exact .same _
    | some index =>
        refine ⟨?_, take_alike (gap.drop stop) index⟩
        simp only [Option.map_some, Option.getD_some, Gap.shift, shiftAt, length]
        split <;> split <;> omega
  · have here : gap.shift stop = stop + 1 := if_neg within
    rw [here, drop_behind (Nat.lt_of_not_le within)]
    refine ⟨?_, .same _⟩
    rw [Gap.shift, shiftAt, if_neg (by omega)]
    omega

theorem body_end_shift (gap : Gap) (bodyStart : Nat) :
    bodyEnd gap.wide (gap.shift bodyStart) = gap.shift (bodyEnd gap.narrow bodyStart) := by
  have next := search_behind_aligned (finds_any_class gap) bodyStart
  unfold bodyEnd
  revert next
  generalize anyClass.searchAt ((Cursor.start gap.narrow).advance (bodyStart + 1)) = found
  generalize anyClass.searchAt ((Cursor.start gap.wide).advance (gap.shift bodyStart + 1)) = wide
  intro next
  cases next with
  | some same => exact same
  | none =>
      have narrow : gap.narrow.length = gap.before.length + (gap.after.length + 1) := by
        simp [Gap.narrow]
      have wide : gap.wide.length = gap.narrow.length + 1 := by
        simp only [Gap.narrow, Gap.wide, List.length_append, List.length_cons]
        omega
      simp only [wide, Gap.shift, shiftAt]
      rw [if_neg (by omega)]

theorem constructor_search_alike (language : Option Language) (masked : Gap) (bodyStart stop : Nat) :
    Option.Rel (fun found wide => wide.stop = masked.shift found.stop)
      ((constructorHeader language).searchAt
        ((Cursor.start (masked.narrow.take stop)).advance bodyStart))
      ((constructorHeader language).searchAt
        ((Cursor.start (masked.wide.take (masked.shift stop))).advance
          (masked.shift bodyStart))) := by
  by_cases within : stop ≤ masked.before.length
  · -- the body ends in front of the gap
    have here : masked.shift stop = stop := if_pos within
    have short : (masked.narrow.take stop).length ≤ stop := List.length_take_le _ _
    have same : (Cursor.start (masked.narrow.take stop)).advance (masked.shift bodyStart) =
        (Cursor.start (masked.narrow.take stop)).advance bodyStart := by
      by_cases early : bodyStart ≤ masked.before.length
      · rw [Gap.shift, shiftAt, if_pos early]
      · rw [Gap.shift, shiftAt, if_neg early]
        exact advance_past _ (by omega) (by omega) _ _
    rw [here, take_within within, same]
    cases result : (constructorHeader language).searchAt
        ((Cursor.start (masked.narrow.take stop)).advance bodyStart) with
    | none => exact .none
    | some found =>
        have bound := (constructor_stop_bounds result).2
        rw [advance_total] at bound
        simp only [Cursor.start, Nat.zero_add] at bound
        refine .some (Eq.symm (if_pos ?_))
        omega
  · have here : masked.shift stop = stop + 1 := if_neg within
    obtain ⟨count, narrow, wide⟩ := take_behind (Nat.lt_of_not_le within)
    have finds := finds_of_tame (constructor_header_tame language) (masked.take count)
    rw [here, narrow, wide]
    exact rel_weaken (fun alike => alike.stop)
      (search_aligned finds (advance_aligned (masked.take count) bodyStart))

end Places

variable {language : Option Language}

theorem constructor_between_alike {gap masked : Gap}
    (length : masked.before.length = gap.before.length) (bodyStart stop : Nat) :
    constructorBetween language gap.narrow masked.narrow bodyStart stop =
      constructorBetween language gap.wide masked.wide (gap.shift bodyStart) (gap.shift stop) := by
  have shifts (index : Nat) : masked.shift index = gap.shift index := by
    rw [Gap.shift, Gap.shift, length]
  have headers := constructor_search_alike language masked bodyStart stop
  simp only [shifts] at headers
  unfold constructorBetween
  revert headers
  generalize (constructorHeader language).searchAt
    ((Cursor.start (masked.narrow.take stop)).advance bodyStart) = found
  generalize (constructorHeader language).searchAt
    ((Cursor.start (masked.wide.take (gap.shift stop))).advance (gap.shift bodyStart)) = wide
  intro headers
  cases headers with
  | none => rfl
  | @some found wide same =>
      have params := parenthesized_alike (drop_stop_alike gap found.stop)
      simp only [same]
      revert params
      generalize parenthesized (gap.narrow.drop (found.stop - 1)) = parts
      generalize parenthesized (gap.wide.drop (gap.shift found.stop - 1)) = partsWide
      intro params
      cases params with
      | none => rfl
      | some alike => simp only [normalize_params_alike language alike.1]

/-- Alike texts have the same contract of a class. -/
theorem class_in_alike {name : List Char} (word : OneWord name) {code wide : List Char}
    (alike : Alike code wide) : classIn language name code = classIn language name wide :=
  alike.congr fun gap => by
    obtain ⟨masked, length, narrow, wide⟩ := mask_gap language true gap
    have shifts (index : Nat) : masked.shift index = gap.shift index := by
      rw [Gap.shift, Gap.shift, length]
    have headers := search_text_aligned (finds_of_tame (class_header_tame word language) masked)
    unfold classIn
    simp only [narrow, wide]
    revert headers
    generalize (classHeader language name).search masked.narrow = found
    generalize (classHeader language name).search masked.wide = foundWide
    intro headers
    cases headers with
    | none => rfl
    | @some found foundWide alike =>
        have stop : foundWide.stop = gap.shift found.stop := by rw [alike.stop, shifts]
        obtain ⟨bodyStart, heritage⟩ := head_length_alike language gap found.stop
        have ends := body_end_shift masked
          (found.stop + headLength language (gap.narrow.drop found.stop))
        rw [shifts, shifts] at ends
        simp only [Option.map_some, stop, bodyStart, ends, heritage.collapse,
          ← constructor_between_alike length]

end EditImpact.Signature
