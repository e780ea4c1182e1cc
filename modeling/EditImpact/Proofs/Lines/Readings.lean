import EditImpact.Lines.Diff
import EditImpact.LineDelta
import EditImpact.Proofs.Source.Words

/-!
# Three readings of the lines of a text

A diff counts lines that end at newlines (`bareLines`), cutting at newlines finds the same lines and
perhaps an empty one behind them (`newline_lines_eq`), and cutting at every line boundary finds at
least as many (`bare_lines_le`). The last two readings agree if no other character ends a line
(`boundary_lines_eq`).
-/

namespace EditImpact.Lines

open Text

set_option autoImplicit false

/-- The lines that end at newlines, each without its newline. -/
def bareLines (text : List Char) : List (List Char) :=
  (terminatedLines text).map (·.takeWhile (· != '\n'))

/-- Only newlines end a line. -/
def OnlyNewlines (text : List Char) : Prop := ∀ c ∈ text, isLineBoundary c = true → c = '\n'

section BareLines

variable {c : Char} {rest : List Char}

theorem bare_lines_newline : bareLines ('\n' :: rest) = [] :: bareLines rest := rfl

/-- A character other than a newline goes in front of the first line. -/
theorem bare_lines_plain (plain : c ≠ '\n') :
    bareLines (c :: rest) = (c :: (bareLines rest).headD []) :: (bareLines rest).tail := by
  rw [bareLines, bareLines, terminatedLines, if_neg (by simpa using plain)]
  cases terminatedLines rest with
  | nil => simp [plain]
  | cons line lines => simp [plain]

end BareLines

theorem newline_free_of_bare {text line : List Char} (member : line ∈ bareLines text) :
    '\n' ∉ line := by
  obtain ⟨whole, -, rfl⟩ := List.mem_map.mp member
  intro inside
  have other := List.all_eq_true.mp List.all_takeWhile _ inside
  exact absurd rfl (bne_iff_ne.mp other)

/-- Every character but the newlines stands on one of the lines. -/
theorem exists_bare_line {text : List Char} {c : Char} (member : c ∈ text) (plain : c ≠ '\n') :
    ∃ line ∈ bareLines text, c ∈ line := by
  induction text with
  | nil => cases member
  | cons d rest induction =>
      by_cases newline : d = '\n'
      · subst newline
        obtain ⟨line, inside, here⟩ := induction ((List.mem_cons.mp member).resolve_left plain)
        exact ⟨line, List.mem_cons_of_mem [] inside, here⟩
      · rw [bare_lines_plain newline]
        rcases List.mem_cons.mp member with rfl | later
        · exact ⟨_, List.mem_cons_self, List.mem_cons_self⟩
        · obtain ⟨line, inside, here⟩ := induction later
          cases lines : bareLines rest with
          | nil => simp [lines] at inside
          | cons first others =>
              rw [lines] at inside
              rcases List.mem_cons.mp inside with rfl | behind
              · exact ⟨_, List.mem_cons_self, List.mem_cons_of_mem d here⟩
              · exact ⟨line, List.mem_cons_of_mem _ behind, here⟩

/-- Cutting at newlines leaves at most one more line, the empty text behind the last newline. -/
theorem newline_lines_eq (text : List Char) :
    newlineLines text = bareLines text ∨ newlineLines text = bareLines text ++ [[]] := by
  induction text with
  | nil => exact .inr rfl
  | cons c rest induction =>
      obtain ⟨piece, pieces, split⟩ := List.exists_cons_of_ne_nil
        (Source.split_by_ne_nil (· == '\n') rest)
      by_cases newline : c = '\n'
      · subst newline
        have cut : newlineLines ('\n' :: rest) = [] :: newlineLines rest := by
          simp [newlineLines, splitBy, split]
        rw [cut, bare_lines_newline]
        rcases induction with same | more
        · exact .inl (congrArg _ same)
        · exact .inr (congrArg _ more)
      · have cut : newlineLines (c :: rest) =
            (c :: (newlineLines rest).headD []) :: (newlineLines rest).tail := by
          simp [newlineLines, splitBy, split, newline]
        rw [cut, bare_lines_plain newline]
        rcases induction with same | more
        · exact .inl (by rw [same])
        · rw [more]
          cases bareLines rest with
          | nil => exact .inl rfl
          | cons line lines => exact .inr rfl

/-! ## Every line boundary -/

section Boundaries

variable {c : Char} {rest : List Char}

theorem boundary_lines_plain (plain : isLineBoundary c = false) :
    boundaryLines (c :: rest) =
      (c :: (boundaryLines rest).headD []) :: (boundaryLines rest).tail := by
  have notReturn : c ≠ '\r' := by
    rintro rfl
    revert plain
    decide
  rw [boundaryLines, plain]
  · cases boundaryLines rest <;> rfl
  · intro _ same _
    exact notReturn same

theorem boundary_lines_boundary (boundary : isLineBoundary c = true)
    (single : c = '\r' → rest.head? ≠ some '\n') :
    boundaryLines (c :: rest) = [] :: boundaryLines rest := by
  rw [boundaryLines, boundary]
  · rfl
  · rintro more rfl rfl
    exact single rfl rfl

theorem boundary_lines_pair : boundaryLines ('\r' :: '\n' :: rest) = [] :: boundaryLines rest := rfl

end Boundaries

/-- The boundaries at the start of a text: none, one, or a carriage return with its newline. -/
theorem boundary_cases (c : Char) (rest : List Char) :
    isLineBoundary c = false ∨
      isLineBoundary c = true ∧ (c = '\r' → rest.head? ≠ some '\n') ∨
      ∃ more, c = '\r' ∧ rest = '\n' :: more := by
  cases isLineBoundary c with
  | false => exact .inl rfl
  | true =>
      by_cases pair : c = '\r' ∧ rest.head? = some '\n'
      · obtain ⟨more, rfl⟩ := List.head?_eq_some_iff.mp pair.2
        exact .inr (.inr ⟨more, pair.1, rfl⟩)
      · exact .inr (.inl ⟨rfl, fun same head => pair ⟨same, head⟩⟩)

theorem newline_boundary : isLineBoundary '\n' = true := by decide

theorem boundary_lines_eq {text : List Char} (only : OnlyNewlines text) :
    boundaryLines text = bareLines text := by
  induction text with
  | nil => rfl
  | cons c rest induction =>
      obtain ⟨here, later⟩ := List.forall_mem_cons.mp only
      by_cases newline : c = '\n'
      · subst newline
        rw [boundary_lines_boundary newline_boundary nofun, bare_lines_newline, induction later]
      · have plain : isLineBoundary c = false := by simpa [newline] using here
        rw [boundary_lines_plain plain, bare_lines_plain newline, induction later]

theorem bare_lines_le (text : List Char) :
    (bareLines text).length ≤ (boundaryLines text).length := by
  induction length : text.length using Nat.strongRecOn generalizing text with
  | ind count induction =>
      cases text with
      | nil => exact Nat.le_refl 0
      | cons c rest =>
          rw [List.length_cons] at length
          have later := induction rest.length (by omega) rest rfl
          rcases boundary_cases c rest with plain | ⟨boundary, single⟩ | ⟨more, rfl, rfl⟩
          · have newline : c ≠ '\n' := by
              rintro rfl
              cases plain
            rw [boundary_lines_plain plain, bare_lines_plain newline]
            simp only [List.length_cons, List.length_tail]
            omega
          · rw [boundary_lines_boundary boundary single]
            by_cases newline : c = '\n'
            · subst newline
              rw [bare_lines_newline]
              exact Nat.succ_le_succ later
            · rw [bare_lines_plain newline]
              simp only [List.length_cons, List.length_tail]
              omega
          -- the carriage return ends no line of its own
          · have behind := induction more.length (by simp at length; omega) more rfl
            rw [boundary_lines_pair, bare_lines_plain (by decide), bare_lines_newline]
            simpa using behind

theorem boundary_free_of_line {text line : List Char} (member : line ∈ boundaryLines text) :
    ∀ c ∈ line, isLineBoundary c = false := by
  induction length : text.length using Nat.strongRecOn generalizing text line with
  | ind count induction =>
      cases text with
      | nil => cases member
      | cons c rest =>
          rw [List.length_cons] at length
          have later {line : List Char} (member : line ∈ boundaryLines rest) :=
            induction rest.length (by omega) member rfl
          rcases boundary_cases c rest with plain | ⟨boundary, single⟩ | ⟨more, rfl, rfl⟩
          · rw [boundary_lines_plain plain] at member
            cases lines : boundaryLines rest with
            | nil => simp_all
            | cons first others =>
                rw [lines] at member later
                rcases List.mem_cons.mp member with rfl | behind
                · exact List.forall_mem_cons.mpr ⟨plain, later List.mem_cons_self⟩
                · exact later (List.mem_cons_of_mem first behind)
          · rw [boundary_lines_boundary boundary single] at member
            rcases List.mem_cons.mp member with rfl | behind
            · nofun
            · exact later behind
          · rw [boundary_lines_pair] at member
            rcases List.mem_cons.mp member with rfl | behind
            · nofun
            · exact induction more.length (by simp at length; omega) behind rfl

/-! ## Joined lines -/

theorem newline_lines_whole {line : List Char} (free : '\n' ∉ line) :
    newlineLines line = [line] := by
  apply Source.split_by_whole
  intro c member
  exact beq_eq_false_iff_ne.mpr fun same => free (same ▸ member)

theorem newline_lines_append (line more : List Char) (free : '\n' ∉ line) :
    newlineLines (line ++ '\n' :: more) = line :: newlineLines more := by
  have cut : newlineLines (line ++ '\n' :: more) = newlineLines line ++ newlineLines more :=
    @Source.split_by_append (· == '\n') '\n' rfl line more
  rw [cut, newline_lines_whole free]
  rfl

/-- Lines without newlines are read back from what they join to. -/
theorem newline_lines_join {line : List Char} {lines : List (List Char)}
    (free : ∀ text ∈ line :: lines, '\n' ∉ text) :
    newlineLines (joinWith ['\n'] (line :: lines)) = line :: lines := by
  induction lines generalizing line with
  | nil => exact newline_lines_whole (free line List.mem_cons_self)
  | cons next lines induction =>
      obtain ⟨here, later⟩ := List.forall_mem_cons.mp free
      rw [joinWith, List.append_assoc, List.singleton_append, newline_lines_append _ _ here,
        induction later]

/-- Lines without newlines are told apart by what they join to, if they are equally many. -/
theorem join_lines_injective {left right : List (List Char)} (size : left.length = right.length)
    (leftFree : ∀ line ∈ left, '\n' ∉ line) (rightFree : ∀ line ∈ right, '\n' ∉ line)
    (same : joinWith ['\n'] left = joinWith ['\n'] right) : left = right := by
  match left, right with
  | [], [] => rfl
  | line :: left, other :: right =>
      rw [← newline_lines_join leftFree, same, newline_lines_join rightFree]

end EditImpact.Lines
