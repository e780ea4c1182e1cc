import EditImpact.Proofs.Pattern.Repeating
import Mathlib.Logic.Basic

/-!
# How far a pattern sees

A pattern that ends in a character which none of its other parts reads cannot see past the next one
of these characters. So if it is found in front of such a character, it is found in the same place
whatever text follows (`search_before_horizon`).
-/

namespace EditImpact

set_option autoImplicit false

namespace Progress

/-- Between the two places stands a part of the text that the first one has in front of it. -/
def Reads (progress reached : Progress) : Prop :=
  ∃ read, progress.cursor.rest = read ++ reached.cursor.rest ∧
    reached.cursor.offset = progress.cursor.offset + read.length

namespace Reads

theorem refl (progress : Progress) : progress.Reads progress := ⟨[], rfl, rfl⟩

theorem trans {first second third : Progress} (early : first.Reads second)
    (late : second.Reads third) : first.Reads third := by
  obtain ⟨read, text, offset⟩ := early
  obtain ⟨more, textToo, offsetToo⟩ := late
  refine ⟨read ++ more, ?_, ?_⟩
  · rw [text, textToo, List.append_assoc]
  · rw [offsetToo, offset, List.length_append]
    omega

theorem shorter {first second : Progress} (reads : first.Reads second)
    (moved : ¬second.cursor.offset ≤ first.cursor.offset) :
    second.cursor.rest.length < first.cursor.rest.length := by
  obtain ⟨read, text, offset⟩ := reads
  rw [text, List.length_append]
  omega

end Reads

end Progress

namespace Pattern

variable {Result : Type}

section Reading

theorem or_else_eq_some {first second : Option Result} {result : Result}
    (found : (first <|> second) = some result) : first = some result ∨ second = some result := by
  cases first with
  | none => exact .inr found
  | some other => exact .inl found

theorem choose_eq_some {greedy : Bool} {least : Nat} {again stop : Option Result} {result : Result}
    (found : choose greedy least again stop = some result) :
    again = some result ∨ stop = some result := by
  unfold choose at found
  split at found
  · exact .inl found
  · split at found
    · exact or_else_eq_some found
    · exact (or_else_eq_some found).symm

/-- Every result is what the continuation says about a place that was read up to. -/
def OnlyReads (Result : Type) (pattern : Pattern) : Prop :=
  ∀ {progress : Progress} {next : Progress → Option Result} {result : Result},
    pattern.run progress next = some result →
      ∃ reached, progress.Reads reached ∧ next reached = some result

theorem rep_only_reads {body : Pattern} (bodies : body.OnlyReads Result) (greedy : Bool)
    (least : Nat) (most : Option Nat) : (rep greedy least most body).OnlyReads Result := by
  intro progress next result found
  induction length : progress.cursor.rest.length using Nat.strongRecOn
    generalizing progress least most with
  | ind count induction =>
      rw [run_rep] at found
      split at found
      · exact ⟨progress, .refl progress, found⟩
      · rcases choose_eq_some found with again | stop
        · obtain ⟨reached, reads, more⟩ := bodies again
          split at more
          · cases more
          · next moved =>
              have shorter := reads.shorter moved
              obtain ⟨further, readsToo, accepted⟩ := induction _ (by omega) _ _ more rfl
              exact ⟨further, reads.trans readsToo, accepted⟩
        · exact ⟨progress, .refl progress, stop⟩

theorem run_only_reads (pattern : Pattern) : pattern.OnlyReads Result := by
  induction pattern with
  | empty => exact fun {progress} _ _ found => ⟨progress, .refl progress, found⟩
  | char set =>
      rintro ⟨⟨last, rest, offset⟩, captured⟩ next result found
      cases rest with
      | nil => cases found
      | cons c rest =>
          rw [run_char] at found
          split at found
          · exact ⟨_, ⟨[c], rfl, rfl⟩, found⟩
          · cases found
  | seq first second firstCase secondCase =>
      intro progress next result found
      obtain ⟨middle, early, more⟩ := firstCase found
      obtain ⟨reached, late, accepted⟩ := secondCase more
      exact ⟨reached, early.trans late, accepted⟩
  | alt first second firstCase secondCase =>
      intro progress next result found
      rcases or_else_eq_some found with one | other
      · exact firstCase one
      · exact secondCase other
  | rep greedy least most body bodyCase => exact rep_only_reads bodyCase greedy least most
  | capture body bodyCase =>
      intro progress next result found
      obtain ⟨reached, ⟨read, text, offset⟩, accepted⟩ := bodyCase found
      exact ⟨⟨reached.cursor, some _⟩, ⟨read, text, offset⟩, accepted⟩
  | wordEdge => exact fun found => ⟨_, .refl _, (Option.ite_none_right_eq_some.mp found).2⟩
  | textStart => exact fun found => ⟨_, .refl _, (Option.ite_none_right_eq_some.mp found).2⟩
  | lineStart => exact fun found => ⟨_, .refl _, (Option.ite_none_right_eq_some.mp found).2⟩
  | textEnd => exact fun found => ⟨_, .refl _, (Option.ite_none_right_eq_some.mp found).2⟩
  | notBefore set =>
      intro progress next result found
      simp only [run] at found
      split at found
      · exact ⟨progress, .refl progress, found⟩
      · exact ⟨progress, .refl progress, (Option.ite_none_left_eq_some.mp found).2⟩
  | notAfter set =>
      intro progress next result found
      simp only [run] at found
      split at found
      · exact ⟨progress, .refl progress, found⟩
      · exact ⟨progress, .refl progress, (Option.ite_none_left_eq_some.mp found).2⟩

end Reading

section Horizon

variable {stop : Char} {more other : List Char} {horizon : Nat}

/-- The same place of two texts that agree up to the character `stop` at the offset `horizon`. -/
inductive Faces (stop : Char) (more other : List Char) (horizon : Nat) :
    Progress → Progress → Prop where
  | intro (last : Option Char) (own : List Char) {offset : Nat} (captured : Option (List Char))
      (ends : offset + own.length = horizon) :
      Faces stop more other horizon ⟨⟨last, own ++ stop :: more, offset⟩, captured⟩
        ⟨⟨last, own ++ stop :: other, offset⟩, captured⟩

/-- A pattern that reads no `stop` and does not ask for the end of the text. -/
def avoids (stop : Char) : Pattern → Bool
  | char set => !set.contains stop
  | seq first second => avoids stop first && avoids stop second
  | alt first second => avoids stop first && avoids stop second
  | rep _ _ _ body => avoids stop body
  | capture body => avoids stop body
  | textEnd => false
  | _ => true

/-- Continuations that say the same about a place of both texts make the pattern say the same. -/
def SeesOnly (Result : Type) (stop : Char) (more other : List Char) (horizon : Nat)
    (pattern : Pattern) : Prop :=
  ∀ {near far : Progress} {next nextFar : Progress → Option Result},
    Faces stop more other horizon near far →
    (∀ {reached reachedFar}, Faces stop more other horizon reached reachedFar →
      next reached = nextFar reachedFar) →
    pattern.run near next = pattern.run far nextFar

theorem rep_sees_only {body : Pattern} (bodies : body.SeesOnly Result stop more other horizon)
    (greedy : Bool) (least : Nat) (most : Option Nat) :
    (rep greedy least most body).SeesOnly Result stop more other horizon := by
  intro near far next nextFar faces same
  -- on the text in front of the horizon, which a round that goes on has read some of
  induction left : horizon - near.cursor.offset using Nat.strongRecOn
    generalizing near far least most with
  | ind count induction =>
      have here := same faces
      obtain ⟨last, own, captured, ends⟩ := faces
      rw [run_rep, run_rep]
      split
      · exact here
      · rw [here]
        congr 1
        apply bodies (.intro last own captured ends)
        rintro _ _ ⟨lastToo, ownToo, capturedToo, endsToo⟩
        simp only
        split
        · rfl
        · next moved =>
            simp only at left
            apply induction _ _ _ _ (.intro lastToo ownToo capturedToo endsToo) rfl
            simp only
            omega

theorem run_sees_only {pattern : Pattern} (avoiding : pattern.avoids stop = true) :
    pattern.SeesOnly Result stop more other horizon := by
  induction pattern with
  | empty => exact fun faces same => same faces
  | char set =>
      rintro _ _ next nextFar ⟨last, own, captured, ends⟩ same
      cases own with
      | nil =>
          have unread : set.contains stop = false := by simpa [avoids] using avoiding
          rw [List.nil_append, List.nil_append, run_char, run_char, unread]
          rfl
      | cons c own =>
          rw [List.cons_append, List.cons_append, run_char, run_char]
          rw [List.length_cons] at ends
          rw [same (.intro (some c) own captured (by omega))]
  | seq first second firstCase secondCase =>
      rw [avoids, Bool.and_eq_true] at avoiding
      intro near far next nextFar faces same
      apply firstCase avoiding.1 faces
      intro reached reachedFar facesToo
      exact secondCase avoiding.2 facesToo same
  | alt first second firstCase secondCase =>
      rw [avoids, Bool.and_eq_true] at avoiding
      intro near far next nextFar faces same
      rw [run, run, firstCase avoiding.1 faces same, secondCase avoiding.2 faces same]
  | rep greedy least most body bodyCase =>
      exact rep_sees_only (bodyCase avoiding) greedy least most
  | capture body bodyCase =>
      rintro _ _ next nextFar ⟨last, own, captured, ends⟩ same
      apply bodyCase avoiding (.intro last own captured ends)
      rintro _ _ ⟨lastToo, ownToo, capturedToo, endsToo⟩
      simp only
      rw [List.take_append_of_le_length (by omega), List.take_append_of_le_length (by omega)]
      exact same (.intro lastToo ownToo _ endsToo)
  | wordEdge =>
      rintro _ _ next nextFar ⟨last, own, captured, ends⟩ same
      have here := same (.intro last own captured ends)
      cases own with
      | nil => exact if_congr Iff.rfl here rfl
      | cons c own => exact if_congr Iff.rfl here rfl
  | textStart =>
      rintro _ _ next nextFar ⟨last, own, captured, ends⟩ same
      simp only [run, same (.intro last own captured ends)]
  | lineStart =>
      rintro _ _ next nextFar ⟨last, own, captured, ends⟩ same
      simp only [run, same (.intro last own captured ends)]
  | textEnd => cases avoiding
  | notBefore set =>
      rintro _ _ next nextFar ⟨last, own, captured, ends⟩ same
      have here := same (.intro last own captured ends)
      cases own with
      | nil => exact if_congr Iff.rfl rfl here
      | cons c own => exact if_congr Iff.rfl rfl here
  | notAfter set =>
      rintro _ _ next nextFar ⟨last, own, captured, ends⟩ same
      simp only [run, same (.intro last own captured ends)]

end Horizon

section Search

variable {front : Pattern} {stop : Char} {found : Match}

/-- A match is read up to the character that ends the pattern. -/
theorem match_at_stop {cursor : Cursor} (result : (front ++ one stop).matchAt cursor = some found) :
    ∃ own more, cursor.rest = own ++ stop :: more ∧
      found.stop = cursor.offset + own.length + 1 := by
  obtain ⟨⟨⟨last, rest, offset⟩, captured⟩, ⟨own, text, place⟩, read⟩ := run_only_reads front result
  cases rest with
  | nil => cases read
  | cons c rest =>
      rw [run_one] at read
      split at read
      · next same =>
          subst same
          cases read
          exact ⟨own, rest, text, congrArg (· + 1) place⟩
      · cases read

theorem search_from_stop {last : Option Char} {text : List Char} {offset : Nat}
    (result : (front ++ one stop).searchFrom last text offset = some found) :
    ∃ own more, text = own ++ stop :: more ∧ found.stop = offset + own.length + 1 := by
  induction text generalizing last offset with
  | nil => exact match_at_stop result
  | cons c rest induction =>
      rcases or_else_eq_some result with here | later
      · exact match_at_stop here
      · obtain ⟨own, more, text, place⟩ := induction later
        refine ⟨c :: own, more, by rw [text]; rfl, ?_⟩
        rw [place, List.length_cons]
        omega

theorem match_before_horizon (avoiding : front.avoids stop = true) (last : Option Char)
    (own more other : List Char) (offset : Nat) :
    (front ++ one stop).matchAt ⟨last, own ++ stop :: more, offset⟩ =
      (front ++ one stop).matchAt ⟨last, own ++ stop :: other, offset⟩ := by
  apply run_sees_only avoiding (.intro last own none rfl)
  rintro _ _ ⟨lastToo, ownToo, captured, ends⟩
  have texts (reached : Nat) (within : reached ≤ own.length + 1) :
      (own ++ stop :: more).take reached = (own ++ stop :: other).take reached := by
    have room : reached ≤ (own ++ [stop]).length := by simpa using within
    rw [List.append_cons own stop more, List.append_cons own stop other,
      List.take_append_of_le_length room, List.take_append_of_le_length room]
  cases ownToo with
  | nil =>
      rw [List.nil_append, List.nil_append, run_one, run_one]
      simp only [if_true]
      rw [texts _ (by simp only [List.length_nil] at ends; omega)]
  | cons c ownToo =>
      rw [List.cons_append, List.cons_append, run_one, run_one]
      rw [List.length_cons] at ends
      simp only
      rw [texts _ (by omega)]

/-- A match that ends at or in front of the stop is found whatever text follows. -/
theorem search_before_horizon (avoiding : front.avoids stop = true) {last : Option Char}
    {own more : List Char} {offset : Nat}
    (result : (front ++ one stop).searchFrom last (own ++ stop :: more) offset = some found)
    (within : found.stop ≤ offset + own.length + 1) (other : List Char) :
    (front ++ one stop).searchFrom last (own ++ stop :: other) offset = some found := by
  induction own generalizing last offset with
  | nil =>
      rcases or_else_eq_some result with here | later
      · have same := match_before_horizon avoiding last [] more other offset
        rw [List.nil_append, List.nil_append, here] at same
        rw [List.nil_append, searchFrom, ← same]
        rfl
      · obtain ⟨own, rest, -, place⟩ := search_from_stop later
        rw [List.length_nil] at within
        omega
  | cons c own induction =>
      have same := match_before_horizon avoiding last (c :: own) more other offset
      rw [List.cons_append, List.cons_append] at same
      rw [List.cons_append, searchFrom] at result ⊢
      rw [← same]
      cases here : (front ++ one stop).matchAt ⟨last, c :: (own ++ stop :: more), offset⟩ with
      | some match' => rwa [here] at result
      | none =>
          rw [here] at result
          rw [List.length_cons] at within
          exact induction result (by omega)

/-- A search sees no more of a text than its first match. -/
theorem search_take (avoiding : front.avoids stop = true) {text other : List Char}
    (result : (front ++ one stop).search text = some found)
    (same : text.take found.stop = other.take found.stop) :
    (front ++ one stop).search other = some found := by
  obtain ⟨own, more, rfl, place⟩ := search_from_stop result
  rw [Nat.zero_add] at place
  have begins : other.take (own.length + 1) = own ++ [stop] := by
    rw [← place, ← same, place, List.take_length_add_append]
    rfl
  have split : other = own ++ stop :: other.drop (own.length + 1) := by
    rw [List.append_cons, ← begins, List.take_append_drop]
  rw [split]
  exact search_before_horizon avoiding result (by omega) _

theorem find_all_head (pattern : Pattern) (last : Option Char) (text : List Char) (offset : Nat) :
    (pattern.findAllFrom 0 last text offset).head? = pattern.searchFrom last text offset := by
  induction text generalizing last offset with
  | nil =>
      rw [findAllFrom, if_neg (Nat.not_lt_zero offset), searchFrom]
      cases pattern.matchAt ⟨last, [], offset⟩ <;> rfl
  | cons c rest induction =>
      rw [findAllFrom, if_neg (Nat.not_lt_zero offset), searchFrom]
      cases pattern.matchAt ⟨last, c :: rest, offset⟩ with
      | none => exact induction (some c) (offset + 1)
      | some found => rfl

end Search

end Pattern

end EditImpact
