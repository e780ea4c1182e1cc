import EditImpact.Source.Collapse
import EditImpact.Proofs.Text.Trim

/-!
The words of a text are those of its parts, if a blank stands between them.
-/

namespace EditImpact.Source

open Text

set_option autoImplicit false

theorem split_by_ne_nil (separates : Char → Bool) (text : List Char) :
    splitBy separates text ≠ [] := by
  cases text with
  | nil => exact List.cons_ne_nil _ _
  | cons c rest =>
      rw [splitBy]
      split
      · exact List.cons_ne_nil _ _
      · split <;> exact List.cons_ne_nil _ _

theorem split_by_append {separates : Char → Bool} {c : Char} (separator : separates c = true)
    (left right : List Char) :
    splitBy separates (left ++ c :: right) = splitBy separates left ++ splitBy separates right := by
  induction left with
  | nil =>
      obtain ⟨piece, pieces, split⟩ := List.exists_cons_of_ne_nil (split_by_ne_nil separates right)
      simp [splitBy, split, separator]
  | cons d left induction =>
      obtain ⟨piece, pieces, split⟩ := List.exists_cons_of_ne_nil (split_by_ne_nil separates left)
      rw [List.cons_append, splitBy, splitBy, induction, split]
      simp only [List.cons_append]
      split <;> rfl

theorem blank_words_append {c : Char} (blank : isBlank c = true) (left right : List Char) :
    blankWords (left ++ c :: right) = blankWords left ++ blankWords right := by
  rw [blankWords, split_by_append blank, List.filter_append, ← blankWords, ← blankWords]

/-- Blanks have no words and part those around them. -/
theorem blank_words_around {blanks : List Char} (blank : AllBlank blanks) (filled : blanks ≠ [])
    (left right : List Char) :
    blankWords (left ++ blanks ++ right) = blankWords left ++ blankWords right := by
  induction blanks generalizing left with
  | nil => exact absurd rfl filled
  | cons c blanks induction =>
      have here := blank c List.mem_cons_self
      cases blanks with
      | nil =>
          rw [List.append_assoc]
          exact blank_words_append here left right
      | cons d blanks =>
          have later := induction (fun e member => blank e (List.mem_cons_of_mem c member))
            (List.cons_ne_nil d blanks) []
          rw [List.append_assoc, List.cons_append, blank_words_append here]
          exact congrArg (blankWords left ++ ·) later

theorem blank_words_append_blanks {blanks : List Char} (blank : AllBlank blanks)
    (left : List Char) : blankWords (left ++ blanks) = blankWords left := by
  by_cases filled : blanks = []
  · rw [filled, List.append_nil]
  · have around := blank_words_around blank filled left []
    rw [List.append_nil] at around
    rw [around]
    exact List.append_nil _

theorem split_by_whole {separates : Char → Bool} {text : List Char}
    (whole : ∀ c ∈ text, separates c = false) : splitBy separates text = [text] := by
  induction text with
  | nil => rfl
  | cons c rest induction =>
      rw [splitBy, induction fun d member => whole d (List.mem_cons_of_mem c member)]
      simp [whole c List.mem_cons_self]

theorem split_by_pieces {separates : Char → Bool} {text piece : List Char}
    (member : piece ∈ splitBy separates text) : ∀ c ∈ piece, separates c = false := by
  induction text generalizing piece with
  | nil =>
      rw [List.mem_singleton.mp member]
      exact List.forall_mem_nil _
  | cons c rest induction =>
      obtain ⟨first, pieces, split⟩ := List.exists_cons_of_ne_nil (split_by_ne_nil separates rest)
      simp only [split] at induction
      simp only [splitBy, split] at member
      by_cases separator : separates c = true
      · rw [if_pos separator] at member
        rcases List.mem_cons.mp member with rfl | later
        · exact List.forall_mem_nil _
        · exact induction later
      · rw [if_neg separator] at member
        rcases List.mem_cons.mp member with rfl | later
        · exact List.forall_mem_cons.mpr
            ⟨Bool.eq_false_iff.mpr separator, induction List.mem_cons_self⟩
        · exact induction (List.mem_cons_of_mem _ later)

theorem blank_words_word {word : List Char} (filled : word ≠ [])
    (whole : ∀ c ∈ word, isBlank c = false) : blankWords word = [word] := by
  rw [blankWords, split_by_whole whole]
  simp [filled]

theorem blank_words_tight {text : List Char} (tight : Tight text) : blankWords text ≠ [] := by
  obtain ⟨⟨c, head, filled⟩, -⟩ := tight
  obtain ⟨rest, rfl⟩ := List.head?_eq_some_iff.mp head
  obtain ⟨piece, pieces, split⟩ := List.exists_cons_of_ne_nil (split_by_ne_nil isBlank rest)
  simp [blankWords, splitBy, split, filled]

end EditImpact.Source
