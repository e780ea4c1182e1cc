import EditImpact.Proofs.Lines.Accounting
import EditImpact.Proofs.Lines.Readings
import EditImpact.Scoring.Context

/-!
# The text of the changed lines

The rules find every changed line where the delta counts it. `changedText` counts lines by all kinds
of boundaries: it finds the same lines for every edit that leads to a text just if nothing but
newlines ends a line of the text (`changed_text_agrees_iff`).
-/

namespace EditImpact.Lines

open Text

set_option autoImplicit false

/-- The changed lines of a text as the delta counts them, joined by newlines. -/
def countedText (text : List Char) (delta : LineDelta) : List Char :=
  joinWith ['\n'] (delta.changed.filterMap (lineAt? (bareLines text)))

/-- A context for the edit from one text to another, as far as the lines are concerned: its delta
is that of an edit script between their lines. -/
structure IsEdit (before after : List Char) (context : Scoring.Context) : Prop where
  current : context.current = after
  scripted : ∃ hunks, EditScript 1 1 (terminatedLines before) (terminatedLines after) hunks ∧
    context.delta = deltaOfHunks hunks

/-! ## Lines by number -/

section ByNumber

variable {lines others : List (List Char)} {numbers : List Int} {n : Int}

theorem exists_line_at (positive : 0 < n) (within : n ≤ lines.length) :
    ∃ line ∈ lines, lineAt? lines n = some line := by
  have inside : (n - 1).toNat < lines.length := by omega
  refine ⟨lines[(n - 1).toNat], List.getElem_mem inside, ?_⟩
  rw [lineAt?, if_pos positive, List.getElem?_eq_getElem inside]

theorem line_at_append (within : n ≤ lines.length) :
    lineAt? (lines ++ others) n = lineAt? lines n := by
  unfold lineAt?
  split
  · exact List.getElem?_append_left (by omega)
  · rfl

/-- All lines that are looked up are there. -/
theorem look_up_all (within : ∀ n ∈ numbers, 0 < n ∧ n ≤ lines.length) :
    numbers.filterMap (lineAt? lines) = numbers.map fun n => (lineAt? lines n).getD [] := by
  rw [← List.filterMap_eq_map]
  apply List.filterMap_congr
  intro n member
  obtain ⟨line, -, found⟩ := exists_line_at (within n member).1 (within n member).2
  rw [Function.comp_apply, found, Option.getD_some]

theorem line_at_mem {line : List Char} (found : lineAt? lines n = some line) : line ∈ lines := by
  rw [lineAt?] at found
  split at found
  · exact List.mem_of_getElem? found
  · nomatch found

theorem looked_up_mem {line : List Char} (found : line ∈ numbers.filterMap (lineAt? lines)) :
    line ∈ lines := by
  obtain ⟨n, -, here⟩ := List.mem_filterMap.mp found
  exact line_at_mem here

/-- Lines of two readings join to the same text just if they are the same one by one. -/
theorem joined_lines_eq_iff (within : ∀ n ∈ numbers, 0 < n ∧ n ≤ lines.length)
    (withinToo : ∀ n ∈ numbers, 0 < n ∧ n ≤ others.length)
    (free : ∀ line ∈ lines, '\n' ∉ line) (freeToo : ∀ line ∈ others, '\n' ∉ line) :
    joinWith ['\n'] (numbers.filterMap (lineAt? lines)) =
        joinWith ['\n'] (numbers.filterMap (lineAt? others)) ↔
      ∀ n ∈ numbers, lineAt? lines n = lineAt? others n := by
  constructor
  · intro same n member
    have size : (numbers.filterMap (lineAt? lines)).length =
        (numbers.filterMap (lineAt? others)).length := by
      rw [look_up_all within, look_up_all withinToo, List.length_map, List.length_map]
    have lists := join_lines_injective size (fun line found => free line (looked_up_mem found))
      (fun line found => freeToo line (looked_up_mem found)) same
    rw [look_up_all within, look_up_all withinToo] at lists
    have here := List.map_inj_left.mp lists n member
    obtain ⟨line, -, found⟩ := exists_line_at (within n member).1 (within n member).2
    obtain ⟨other, -, foundToo⟩ := exists_line_at (withinToo n member).1 (withinToo n member).2
    rw [found, foundToo] at here ⊢
    exact congrArg some here
  · intro same
    rw [List.filterMap_congr same]

end ByNumber

/-- A line boundary other than a newline stands on some line, which is then not found whole. -/
theorem only_newlines_of_found {text : List Char}
    (found : ∀ n : Int, 0 < n → n ≤ (bareLines text).length →
      lineAt? (boundaryLines text) n = lineAt? (bareLines text) n) : OnlyNewlines text := by
  intro c member boundary
  by_contra plain
  obtain ⟨line, inside, here⟩ := exists_bare_line member plain
  obtain ⟨index, below, rfl⟩ := List.getElem_of_mem inside
  have whole : lineAt? (bareLines text) ((index : Int) + 1) = some (bareLines text)[index] := by
    rw [lineAt?, if_pos (by omega), Int.add_sub_cancel, Int.toNat_natCast,
      List.getElem?_eq_getElem below]
  rw [← found _ (by omega) (by omega)] at whole
  rw [boundary_free_of_line (line_at_mem whole) c here] at boundary
  cases boundary

/-! ## The lines that are changed -/

theorem changed_code_eq (context : Scoring.Context) :
    context.changedCode =
      joinWith ['\n'] (context.delta.changed.filterMap (lineAt? context.lines)) := by
  rw [Scoring.Context.changedCode, Scoring.Context.changedPairs, List.map_filterMap]
  congr 2
  funext n
  unfold lineAt?
  split
  · rw [Option.map_map, List.getElem?_toArray]
    exact Option.map_id'
  · rfl

section Edits

variable {before after : List Char} {context : Scoring.Context}

theorem IsEdit.accounts (edit : IsEdit before after context) :
    Accounts 1 1 (terminatedLines before) (terminatedLines after) context.delta := by
  obtain ⟨hunks, script, same⟩ := edit.scripted
  rw [same, script.delta_eq]
  exact script.accounts

/-- The delta that a valid patch adds up to is that of an edit. -/
theorem Patcher.Valid.is_edit {patch : Patcher} (valid : patch.Valid)
    (oldText : isBinary before = false) (newText : isBinary after = false)
    (current : context.current = after) (same : context.delta = delta patch before after) :
    IsEdit before after context := by
  refine ⟨current, ?_⟩
  by_cases edited : before = after
  · subst edited
    rw [delta_of_equal] at same
    exact ⟨[], script_same _, same⟩
  · rw [delta_of_different edited] at same
    exact ⟨_, valid before after oldText newText, same⟩

theorem IsEdit.changed_within (edit : IsEdit before after context) :
    ∀ n ∈ context.delta.changed, 0 < n ∧ n ≤ (bareLines after).length := by
  intro n member
  have accounts := edit.accounts
  rw [bareLines, List.length_map]
  rcases LineDelta.mem_changed.mp member with added | modified
  · have := accounts.added.within n added
    omega
  · have := accounts.modified.within n modified
    omega

/-- In a text that replaces the empty one, all lines are changed. -/
theorem IsEdit.all_changed (edit : IsEdit [] after context) {n : Int} (positive : 0 < n)
    (within : n ≤ (bareLines after).length) : n ∈ context.delta.changed := by
  obtain ⟨lost, -, -, -, same⟩ := edit.accounts.kept
  rw [bareLines, List.length_map] at within
  have member := lines_outside_eq_nil_iff.mp same n (by omega) (by omega)
  exact LineDelta.mem_changed.mpr (List.mem_append.mp member)

/-- The edit that puts a text in the place of the empty one. -/
theorem is_edit_from_nothing (after : List Char) :
    ∃ context, IsEdit [] after context := by
  have whole : EditScript 1 1 [] (terminatedLines after)
      [block 1 0 1 (terminatedLines after).length] := by
    simpa using EditScript.change [] (terminatedLines after) EditScript.done
  exact ⟨{ path := "", current := after, delta := deltaOfHunks [_] }, rfl, _, whole, rfl⟩

/-- The empty line that cutting at newlines may find at the end is never changed. -/
theorem IsEdit.changed_code_eq (edit : IsEdit before after context) :
    context.changedCode = countedText after context.delta := by
  rw [Lines.changed_code_eq, countedText]
  congr 1
  apply List.filterMap_congr
  intro n member
  have within := (edit.changed_within n member).2
  rw [Scoring.Context.lines, edit.current]
  rcases newline_lines_eq after with same | more
  · rw [same]
  · rw [more, line_at_append within]

theorem IsEdit.changed_text_eq_iff (edit : IsEdit before after context) :
    changedText after context.delta = context.changedCode ↔
      ∀ n ∈ context.delta.changed,
        lineAt? (boundaryLines after) n = lineAt? (bareLines after) n := by
  rw [edit.changed_code_eq, changedText, countedText]
  have within := edit.changed_within
  apply joined_lines_eq_iff
  · intro n member
    have := within n member
    have := bare_lines_le after
    omega
  · exact within
  · intro line member newline
    cases boundary_free_of_line member '\n' newline
  · exact fun line => newline_free_of_bare

theorem IsEdit.changed_text_eq (edit : IsEdit before after context) (only : OnlyNewlines after) :
    changedText after context.delta = context.changedCode := by
  rw [edit.changed_text_eq_iff, boundary_lines_eq only]
  exact fun _ _ => rfl

/-- An edit that puts the whole text there tells whether only newlines end lines of it. -/
theorem IsEdit.whole_text_eq_iff (edit : IsEdit [] after context) :
    changedText after context.delta = context.changedCode ↔ OnlyNewlines after := by
  refine ⟨?_, edit.changed_text_eq⟩
  intro agree
  apply only_newlines_of_found
  intro n positive within
  exact edit.changed_text_eq_iff.mp agree n (edit.all_changed positive within)

/-- What a valid patch adds up to is an edit, and the rules see the lines that the delta of an edit
counts. `changedText` gives the same text just if it finds each of them at its number. For an edit
that puts the whole text there, and also for all edits that lead to the text, it does so just if
only newlines end lines of the text. -/
theorem changed_text_agrees_iff (after : List Char) :
    (∀ (patch : Patcher) before (context : Scoring.Context), patch.Valid →
      isBinary before = false → isBinary after = false → context.current = after →
      context.delta = delta patch before after → IsEdit before after context) ∧
    (∀ before context, IsEdit before after context →
      context.changedCode = countedText after context.delta ∧
      (changedText after context.delta = context.changedCode ↔
        ∀ n ∈ context.delta.changed,
          lineAt? (boundaryLines after) n = lineAt? (bareLines after) n)) ∧
    (∀ context, IsEdit [] after context →
      (changedText after context.delta = context.changedCode ↔ OnlyNewlines after)) ∧
    ((∀ before context, IsEdit before after context →
      changedText after context.delta = context.changedCode) ↔ OnlyNewlines after) := by
  refine ⟨?computed, ?counted, fun context edit => edit.whole_text_eq_iff, ?only, ?all⟩
  case computed =>
    intro patch before context valid oldText newText current same
    exact valid.is_edit oldText newText current same
  case counted =>
    intro before context edit
    exact ⟨edit.changed_code_eq, edit.changed_text_eq_iff⟩
  case only =>
    intro agree
    obtain ⟨context, edit⟩ := is_edit_from_nothing after
    exact edit.whole_text_eq_iff.mp (agree [] context edit)
  case all =>
    intro only before context edit
    exact edit.changed_text_eq only

end Edits

/-- A separator of pages and one of paragraphs end no line for the delta. -/
theorem changed_text_of_pages :
    let after := "a\u000cb\nc\u2029".toList
    let context : Scoring.Context :=
      { path := "", current := after, delta := delta shortestPatch "c".toList after }
    IsEdit "c".toList after context ∧ context.changedCode = after ∧
      ¬ ∀ before context, IsEdit before after context →
        changedText after context.delta = context.changedCode := by
  intro after context
  obtain ⟨computed, counted, -, agree⟩ := changed_text_agrees_iff after
  have edit : IsEdit "c".toList after context :=
    computed shortestPatch _ context shortest_patch_valid (by decide) (by decide) rfl rfl
  refine ⟨edit, ?_, fun all => ?_⟩
  · rw [(counted "c".toList context edit).1]
    decide +kernel
  · cases agree.mp all '\u000c' (by decide) (by decide)

/-- A carriage return shifts the numbers, however the lines are compared: the second line of the edit
is not found. -/
theorem carriage_return_shifts_lines :
    let after := "a\rb\nc\n".toList
    let context : Scoring.Context :=
      { path := "", current := after, delta := delta shortestPatch [] after }
    (∀ edited, IsEdit [] after edited → changedText after edited.delta ≠ edited.changedCode) ∧
      context.changedCode = "a\rb\nc".toList ∧ changedText after context.delta = "a\nb".toList := by
  intro after context
  refine ⟨?_, by decide +kernel, by decide +kernel⟩
  intro edited edit agree
  cases edit.whole_text_eq_iff.mp agree '\r' (by decide) (by decide)

end EditImpact.Lines
