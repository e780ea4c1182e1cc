import EditImpact.Pattern.Search
import EditImpact.Proofs.Pattern.Gaps

/-!
# Matches across a gap

A tame pattern has the same matches in the narrow and in the wide text of a gap, up to their offsets:
at one place (`match_aligned`), at the first place (`search_aligned`) and at all of them
(`find_some_aligned`).
-/

namespace EditImpact.Pattern

open Source

set_option autoImplicit false

variable {gap : Gap} {pattern : Pattern} {Rel : Match → Match → Prop}

/-- The same match of the narrow and of the wide text. -/
structure MatchAlike (gap : Gap) (found wide : Match) : Prop where
  start : wide.start = gap.shift found.start
  stop : wide.stop = gap.shift found.stop
  text : Alike found.text wide.text
  captured : OptionAlike found.captured wide.captured

/-- The pattern matches at aligned places alike, and never between the blanks of the gap. -/
structure Finds (gap : Gap) (pattern : Pattern) (Rel : Match → Match → Prop) : Prop where
  aligned : ∀ {cursor wide}, Aligned gap cursor wide →
    Option.Rel Rel (pattern.matchAt cursor) (pattern.matchAt wide)
  between : pattern.matchAt gap.mid = none

/-- The match that ends where reading has come to. -/
def finish (start : Cursor) (reached : Progress) : Option Match :=
  some {
    start := start.offset
    stop := reached.cursor.offset
    text := start.rest.take (reached.cursor.offset - start.offset)
    captured := reached.captured }

theorem finish_quiet (gap : Gap) (start : Cursor) : Quiet gap (finish start) := fun _ _ => rfl

theorem finish_agree {cursor wide : Cursor} (aligned : Aligned gap cursor wide) :
    Agree gap (MatchAlike gap) (finish cursor) (finish wide) := by
  intro reached reachedWide _ _ there alike
  exact .some ⟨aligned.offset_eq, there.offset_eq, aligned.between there, alike⟩

/-- A tame pattern that refuses between blanks finds the same matches. -/
theorem finds_of_tame (found : tame pattern .quiet = some .refuses) (gap : Gap) :
    Finds gap pattern (MatchAlike gap) where
  aligned {_ wide} aligned :=
    run_agree found (finish_quiet gap wide) (finish_agree aligned) aligned .none
  between := run_mood found (finish_quiet gap gap.mid) none

section Search

/-- A search from between the blanks finds nothing there. -/
theorem search_mid (finds : Finds gap pattern Rel) :
    pattern.searchAt gap.mid = pattern.searchAt gap.beyond := by
  have step : pattern.searchAt gap.mid =
      (pattern.matchAt gap.mid <|> pattern.searchAt gap.beyond) := rfl
  rw [step, finds.between]
  rfl

theorem search_aligned (finds : Finds gap pattern Rel) {cursor wide : Cursor}
    (aligned : Aligned gap cursor wide) :
    Option.Rel Rel (pattern.searchAt cursor) (pattern.searchAt wide) := by
  induction aligned using Aligned.reads with
  | ended last offset here => exact finds.aligned here
  | char here later induction => exact rel_or_else (finds.aligned here) induction
  | blanks last induction =>
      rw [← search_mid finds] at induction
      exact rel_or_else (finds.aligned (.at_gap gap last)) induction

theorem start_aligned (gap : Gap) :
    Aligned gap (Cursor.start gap.narrow) (Cursor.start gap.wide) :=
  .ahead none (Nat.zero_add _) (List.suffix_refl _)

theorem search_text_aligned (finds : Finds gap pattern Rel) :
    Option.Rel Rel (pattern.search gap.narrow) (pattern.search gap.wide) :=
  search_aligned finds (start_aligned gap)

end Search

section All

theorem shift_lt_iff (gap : Gap) (first second : Nat) :
    gap.shift first < gap.shift second ↔ first < second := by
  unfold Gap.shift shiftAt
  split <;> split <;> omega

/-- The first match, from some offset on, about which something can be said. -/
def findSomeFrom {Result : Type} (pattern : Pattern) (read : Match → Option Result) (resume : Nat)
    (cursor : Cursor) : Option Result :=
  (pattern.findAllFrom resume cursor.last cursor.rest cursor.offset).findSome? read

variable {Result : Type} {read readWide : Match → Option Result}

/-- What is said at one offset, given the match there and what is said later, from some offset
on. -/
def onward (read : Match → Option Result) (later : Nat → Option Result) (resume offset : Nat) :
    Option Match → Option Result
  | none => later resume
  | some found =>
    if offset < resume then later resume else (read found).or (later found.stop)

theorem find_some_nil (resume offset : Nat) (last : Option Char) :
    findSomeFrom pattern read resume ⟨last, [], offset⟩ =
      onward read (fun _ => none) resume offset (pattern.matchAt ⟨last, [], offset⟩) := by
  simp only [findSomeFrom, findAllFrom]
  cases pattern.matchAt ⟨last, [], offset⟩ with
  | none => simp [onward]
  | some found =>
      simp only [onward, Option.toList_some]
      split
      · rfl
      · rw [List.findSome?_cons]
        cases read found <;> rfl

theorem find_some_cons (resume offset : Nat) (last : Option Char) (c : Char) (rest : List Char) :
    findSomeFrom pattern read resume ⟨last, c :: rest, offset⟩ =
      onward read (fun resume => findSomeFrom pattern read resume ⟨some c, rest, offset + 1⟩) resume
        offset (pattern.matchAt ⟨last, c :: rest, offset⟩) := by
  simp only [findSomeFrom, findAllFrom]
  cases pattern.matchAt ⟨last, c :: rest, offset⟩ with
  | none => simp [onward]
  | some found =>
      simp only [onward]
      split
      · rfl
      · rw [List.findSome?_cons]
        cases read found <;> rfl

theorem onward_aligned
    (same : ∀ {found wide}, MatchAlike gap found wide → read found = readWide wide)
    {later laterWide : Nat → Option Result}
    (laters : ∀ resume, later resume = laterWide (gap.shift resume)) {cursor wide : Cursor}
    (aligned : Aligned gap cursor wide) {found foundWide : Option Match}
    (matched : Option.Rel (MatchAlike gap) found foundWide) (resume : Nat) :
    onward read later resume cursor.offset found =
      onward readWide laterWide (gap.shift resume) wide.offset foundWide := by
  cases matched with
  | none => exact laters resume
  | some alike =>
      simp only [onward, aligned.offset_eq, shift_lt_iff, alike.stop, ← laters, same alike]

/-- What is said alike about alike matches is said about the same first match. -/
theorem find_some_aligned (finds : Finds gap pattern (MatchAlike gap))
    (same : ∀ {found wide}, MatchAlike gap found wide → read found = readWide wide)
    {cursor wide : Cursor} (aligned : Aligned gap cursor wide) (resume : Nat) :
    findSomeFrom pattern read resume cursor =
      findSomeFrom pattern readWide (gap.shift resume) wide := by
  induction aligned using Aligned.reads generalizing resume with
  | ended last offset here =>
      rw [find_some_nil, find_some_nil]
      refine onward_aligned same ?_ here (finds.aligned here) resume
      exact fun _ => rfl
  | char here later induction =>
      rw [find_some_cons, find_some_cons]
      exact onward_aligned same induction here (finds.aligned here) resume
  | blanks last induction =>
      have here := Aligned.at_gap gap last
      -- nothing begins between the blanks
      have skip (resume : Nat) : findSomeFrom pattern readWide resume gap.mid =
          findSomeFrom pattern readWide resume gap.beyond := by
        have none := finds.between
        rw [Gap.mid] at none ⊢
        rw [find_some_cons, none]
        rfl
      rw [find_some_cons, find_some_cons]
      refine onward_aligned same (fun resume => ?_) here (finds.aligned here) resume
      exact (induction resume).trans (skip (gap.shift resume)).symm

theorem find_all_aligned (finds : Finds gap pattern (MatchAlike gap))
    (same : ∀ {found wide}, MatchAlike gap found wide → read found = readWide wide) :
    (pattern.findAll gap.narrow).findSome? read = (pattern.findAll gap.wide).findSome? readWide :=
  find_some_aligned finds same (start_aligned gap) 0

end All

section Advance

theorem advance_nil (count offset : Nat) (last : Option Char) :
    Cursor.advance count ⟨last, [], offset⟩ = ⟨last, [], offset⟩ := by
  cases count <;> rfl

theorem advance_cons {count : Nat} (some' : 0 < count) (offset : Nat) (last : Option Char) (c : Char)
    (rest : List Char) :
    Cursor.advance count ⟨last, c :: rest, offset⟩ =
      Cursor.advance (count - 1) ⟨some c, rest, offset + 1⟩ := by
  obtain ⟨left, rfl⟩ := Nat.exists_eq_succ_of_ne_zero (Nat.ne_of_gt some')
  rfl

/-- Aligned places stay aligned when both go on to the same offset, shifted in the wide text. -/
theorem advance_to_aligned {cursor wide : Cursor} (aligned : Aligned gap cursor wide) {index : Nat}
    (onward : cursor.offset ≤ index) :
    Aligned gap (Cursor.advance (index - cursor.offset) cursor)
      (Cursor.advance (gap.shift index - wide.offset) wide) := by
  induction aligned using Aligned.reads with
  | ended last offset here =>
      rw [advance_nil, advance_nil]
      exact here
  | @char last c rest restWide offset offsetWide here later induction =>
      have order := shift_lt_iff gap offset index
      have wide : offsetWide = gap.shift offset := here.offset_eq
      simp only at onward induction ⊢
      rcases Nat.eq_or_lt_of_le onward with rfl | further
      · rw [← wide, Nat.sub_self, Nat.sub_self]
        exact here
      · have furtherWide := order.mpr further
        rw [advance_cons (by omega), advance_cons (by omega), Nat.sub_sub, Nat.sub_sub]
        exact induction (by omega)
  | blanks last induction =>
      simp only [Gap.beyond] at onward induction ⊢
      rcases Nat.eq_or_lt_of_le onward with rfl | further
      · have same : gap.shift gap.before.length = gap.before.length := if_pos (Nat.le_refl _)
        rw [same, Nat.sub_self]
        exact .at_gap gap last
      · have shifted : gap.shift index = index + 1 := if_neg (by omega)
        rw [shifted] at induction ⊢
        rw [advance_cons (by omega), advance_cons (by omega), advance_cons (by omega), Nat.sub_sub,
          Nat.sub_sub, Nat.sub_sub]
        exact induction (by omega)

theorem advance_aligned (gap : Gap) (index : Nat) :
    Aligned gap ((Cursor.start gap.narrow).advance index)
      ((Cursor.start gap.wide).advance (gap.shift index)) :=
  advance_to_aligned (start_aligned gap) (Nat.zero_le index)

theorem advance_total (count : Nat) (cursor : Cursor) :
    (cursor.advance count).offset + (cursor.advance count).rest.length =
      cursor.offset + cursor.rest.length := by
  obtain ⟨last, rest, offset⟩ := cursor
  induction rest generalizing count last offset with
  | nil => rw [advance_nil]
  | cons c rest induction =>
      cases count with
      | zero => rfl
      | succ count =>
          refine (induction count (some c) (offset + 1)).trans ?_
          simp only [List.length_cons]
          omega

theorem advance_through (text rest : List Char) (last : Option Char) (offset : Nat) :
    Cursor.advance text.length ⟨last, text ++ rest, offset⟩ =
      ⟨text.getLast?.or last, rest, offset + text.length⟩ := by
  induction text generalizing last offset with
  | nil => rfl
  | cons c text induction =>
      rw [List.length_cons, List.cons_append, advance_cons (Nat.succ_pos _), Nat.succ_sub_one,
        induction, last_cons c text last]
      congr 1
      omega

theorem advance_past (text : List Char) {count other : Nat} (past : text.length ≤ count)
    (pastToo : text.length ≤ other) (last : Option Char) (offset : Nat) :
    Cursor.advance count ⟨last, text, offset⟩ = Cursor.advance other ⟨last, text, offset⟩ := by
  induction text generalizing count other last offset with
  | nil => rw [advance_nil, advance_nil]
  | cons c text induction =>
      rw [List.length_cons] at past pastToo
      rw [advance_cons (by omega), advance_cons (by omega)]
      exact induction (by omega) (by omega) _ _

/-- The wide text is between its blanks one character behind the text in front of the gap, and
behind them after the next. -/
theorem advance_blanks (gap : Gap) :
    (Cursor.start gap.wide).advance (gap.before.length + 1) = gap.mid ∧
      (Cursor.start gap.wide).advance (gap.before.length + 2) = gap.beyond := by
  have first := advance_through (gap.before ++ [gap.added]) (gap.blank :: gap.after) none 0
  have second := advance_through (gap.before ++ [gap.added, gap.blank]) gap.after none 0
  simp only [List.append_assoc, List.cons_append, List.nil_append, List.length_append,
    List.length_cons, List.length_nil, Nat.zero_add, List.getLast?_append, List.getLast?_singleton,
    List.getLast?_cons_cons, Option.some_or] at first second
  exact ⟨first, second⟩

/-- A search from behind some character finds the same. -/
theorem search_behind_aligned (finds : Finds gap pattern Rel) (index : Nat) :
    Option.Rel Rel (pattern.searchAt ((Cursor.start gap.narrow).advance (index + 1)))
      (pattern.searchAt ((Cursor.start gap.wide).advance (gap.shift index + 1))) := by
  have aligned := search_aligned finds (advance_aligned gap (index + 1))
  by_cases here : index = gap.before.length
  · subst here
    obtain ⟨mid, beyond⟩ := advance_blanks gap
    have same : gap.shift gap.before.length = gap.before.length := if_pos (Nat.le_refl _)
    have next : gap.shift (gap.before.length + 1) = gap.before.length + 2 := if_neg (by omega)
    rw [same, mid, search_mid finds, ← beyond, ← next]
    exact aligned
  · have next : gap.shift index + 1 = gap.shift (index + 1) := by
      unfold Gap.shift shiftAt
      split <;> split <;> omega
    rw [next]
    exact aligned

end Advance

end EditImpact.Pattern
