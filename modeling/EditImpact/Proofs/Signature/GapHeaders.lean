import EditImpact.Proofs.Pattern.GapMatches
import EditImpact.Proofs.Signature.ColonParams
import EditImpact.Signature.Header

/-!
# Headers and gaps

The patterns of headers are tame, so a header is found in the narrow and in the wide text of a gap at
the same place, whatever the name looked for, if it holds no blank. The start of any class is read
with the one blank behind its word; there the blanks of a gap are the same.
-/

namespace EditImpact.Signature

open Pattern Source Text

set_option autoImplicit false

section Tame

theorem tame_append (first second : Pattern) :
    tame (first ++ second) = fun mood => (tame second mood).bind (tame first) := rfl

theorem one_tame {c : Char} (filled : Text.isBlank c = false) (mood : Mood) :
    tame (one c) mood = some .refuses := by
  refine if_pos (avoids_blanks_iff.mpr fun d listed => ?_)
  have other : c ≠ d := (ne_of_blank (Loose.gap_blank listed) filled).symm
  simp [CharSet.contains, CharItem.holds, other]

/-- At least one character, and no blank. -/
structure OneWord (name : List Char) : Prop where
  filled : name ≠ []
  solid : Solid name

instance (name : List Char) : Decidable (OneWord name) :=
  decidable_of_iff (name ≠ [] ∧ Solid name)
    ⟨fun both => ⟨both.1, both.2⟩, fun word => ⟨word.filled, word.solid⟩⟩

theorem chars_tame {name : List Char} (word : OneWord name) :
    tame (chars name) = fun _ => some .refuses := by
  obtain ⟨filled, solid⟩ := word
  funext mood
  induction name with
  | nil => exact absurd rfl filled
  | cons c name induction =>
      have here := solid c List.mem_cons_self
      cases name with
      | nil => exact one_tame here mood
      | cons d name =>
          have later := induction (List.cons_ne_nil d name)
            fun e member => solid e (List.mem_cons_of_mem c member)
          change (tame (chars (d :: name)) mood).bind (tame (one c)) = _
          rw [later, Option.bind_some, one_tame here]

variable {name : List Char} (word : OneWord name)
include word

theorem typed_header_tame : tame (typedHeader (chars name)) .quiet = some .refuses := by
  simp only [typedHeader, tame_append, chars_tame word]
  rfl

theorem declared_header_tame : tame (declaredHeader (chars name)) .quiet = some .refuses := by
  simp only [declaredHeader, tame_append, chars_tame word]
  rfl

theorem bound_header_tame : tame (boundHeader (chars name)) .quiet = some .refuses := by
  simp only [boundHeader, tame_append, chars_tame word]
  rfl

theorem bare_arrow_tame : tame (bareArrow name) .quiet = some .refuses := by
  simp only [bareArrow, tame_append, chars_tame word]
  rfl

theorem function_headers_tame (language : Option Language) {header : Header}
    (listed : header ∈ functionHeaders language name) :
    tame header.pattern .quiet = some .refuses := by
  unfold functionHeaders at listed
  split at listed
  · rw [List.mem_singleton.mp listed]
    simp only [tame_append, chars_tame word]
    rfl
  · rw [List.mem_singleton.mp listed]
    simp only [tame_append, chars_tame word]
    rfl
  · rw [List.mem_singleton.mp listed]
    simp only [tame_append, chars_tame word]
    rfl
  · rw [List.mem_singleton.mp listed]
    exact typed_header_tame word
  · rw [List.mem_singleton.mp listed]
    exact typed_header_tame word
  · simp only [List.mem_cons, List.not_mem_nil, or_false] at listed
    rcases listed with rfl | rfl
    · exact declared_header_tame word
    · exact bound_header_tame word

theorem class_header_tame (language : Option Language) :
    tame (classHeader language name) .quiet = some .refuses := by
  unfold classHeader
  split <;> simp only [tame_append, chars_tame word] <;> rfl

end Tame

theorem constructor_header_tame (language : Option Language) :
    tame (constructorHeader language) .quiet = some .refuses := by
  unfold constructorHeader
  split <;> decide

section AnyClass

/-- What may stand in front of the word of a class. -/
def anyClassHead : Pattern :=
  lineStart ++ gap ++ opt (lit "export" ++ gap1) ++ opt (lit "default" ++ gap1) ++
    opt (lit "abstract" ++ gap1)

/-- The word of a class with the blank behind it. -/
def classWord : Pattern := lit "class" ++ char (oneOf " \t")

variable {gap : Gap}

/-- The same start in the narrow and in the wide text. -/
def StartAlike (gap : Gap) (found wide : Match) : Prop := wide.start = gap.shift found.start

theorem class_word_agree {cursor wide : Cursor} (aligned : Aligned gap cursor wide) :
    Agree gap (StartAlike gap) (fun progress => classWord.run progress (finish cursor))
      (fun progress => classWord.run progress (finish wide)) := by
  have same (reached reachedWide : Progress) :
      Option.Rel (StartAlike gap) (finish cursor reached) (finish wide reachedWide) :=
    .some aligned.offset_eq
  have read (text : List Char) (last : Option Char) (offset : Nat)
      (captured : Option (List Char)) (start : Cursor) :
      classWord.run ⟨⟨last, text, offset⟩, captured⟩ (finish start) =
        (afterStart? "class".toList text).bind fun rest => (char (oneOf " \t")).run
          ⟨⟨"class".toList.getLast?.or last, rest, offset + 5⟩, captured⟩ (finish start) :=
    run_chars_eq _ _ _ _ _ _
  intro reached reachedWide captured capturedWide there alike
  simp only
  cases there with
  | behind last place passed =>
      rw [read, read]
      cases afterStart? "class".toList _ with
      | none => exact .none
      | some rest =>
          cases rest with
          | nil => exact .none
          | cons c rest =>
              simp only [Option.bind_some, run_char]
              split
              · exact same _ _
              · exact .none
  | @ahead last own offset place suffix =>
      rw [read, read, after_start_gap (by decide) own gap.loose.blank_blank,
        after_start_gap (by decide) own gap.loose.added_blank]
      cases found : afterStart? "class".toList own with
      | none => exact .none
      | some rest =>
          cases rest with
          | nil =>
              -- the word ends at the gap, so its blanks are the same
              have ends : "class".toList <:+ gap.before := by
                rw [eq_append_of_after_start found, List.append_nil] at suffix
                exact suffix
              have equal := gap.free.strict "class" (by decide) ends
              simp only [Option.map_some, Option.bind_some, List.nil_append, run_char, equal]
              split
              · exact same _ _
              · exact .none
          | cons c rest =>
              simp only [Option.map_some, Option.bind_some, List.cons_append, run_char]
              split
              · exact same _ _
              · exact .none

theorem finds_any_class (gap : Gap) : Finds gap anyClass (StartAlike gap) := by
  have tamed : tame anyClassHead .refuses = some .refuses := by decide
  have refusing : refuses classWord = true := by decide
  have whole (cursor : Cursor) : anyClass.matchAt cursor =
      anyClassHead.run ⟨cursor, none⟩ fun progress => classWord.run progress (finish cursor) := rfl
  have holds (start : Cursor) :
      Mood.refuses.Holds gap fun progress => classWord.run progress (finish start) :=
    fun captured => run_refuses refusing captured _
  constructor
  · intro cursor wide aligned
    rw [whole, whole]
    exact run_agree tamed (holds wide) (class_word_agree aligned) aligned .none
  · rw [whole]
    exact run_mood tamed (holds gap.mid) none

end AnyClass

end EditImpact.Signature
