import EditImpact.Text.Blank

/-!
Trimming takes away exactly the blanks around a tight text, one that begins and ends with a
character that is not blank.
-/

namespace EditImpact.Text

set_option autoImplicit false

/-- What holds of every character of a text is decided by going through the text. It goes before
an instance that would go through all the characters there are. -/
instance (priority := 2000) decidableForallMem (holds : Char → Prop) [DecidablePred holds]
    (text : List Char) : Decidable (∀ c ∈ text, holds c) :=
  List.decidableBAll holds text

/-- Nothing but blanks, or nothing at all. -/
def AllBlank (text : List Char) : Prop := ∀ c ∈ text, isBlank c = true

instance (text : List Char) : Decidable (AllBlank text) :=
  inferInstanceAs (Decidable (∀ c ∈ text, isBlank c = true))

theorem ne_of_blank {c d : Char} (blank : isBlank c = true) (filled : isBlank d = false) :
    c ≠ d := by
  rintro rfl
  rw [blank] at filled
  cases filled

theorem all_blank_nil : AllBlank [] := by
  intro c member
  cases member

theorem all_blank_append {left right : List Char} (first : AllBlank left)
    (second : AllBlank right) : AllBlank (left ++ right) := by
  intro c member
  rcases List.mem_append.mp member with inLeft | inRight
  · exact first c inLeft
  · exact second c inRight

/-- The text begins and ends with a character that is not blank. -/
def Tight (text : List Char) : Prop :=
  (∃ c, text.head? = some c ∧ isBlank c = false) ∧
    ∃ c, text.getLast? = some c ∧ isBlank c = false

instance (text : List Char) : Decidable (Tight text) :=
  decidable_of_iff
    (text.head?.any (!isBlank ·) = true ∧ text.getLast?.any (!isBlank ·) = true)
    (by simp [Tight, Option.any_eq_true])

namespace Tight

theorem ne_nil {text : List Char} (tight : Tight text) : text ≠ [] := by
  rintro rfl
  obtain ⟨⟨c, head, -⟩, -⟩ := tight
  cases head

theorem append {left right : List Char} (first : Tight left) (middle : List Char)
    (last : Tight right) :
    Tight (left ++ middle ++ right) := by
  obtain ⟨⟨c, head, filled⟩, -⟩ := first
  obtain ⟨-, d, final, ended⟩ := last
  refine ⟨⟨c, ?_, filled⟩, d, ?_, ended⟩
  · simp [List.head?_append, head]
  · simp [List.getLast?_append, final]

end Tight

theorem trim_start_blanks {blanks : List Char} (blank : AllBlank blanks) (text : List Char) :
    trimStart (blanks ++ text) = trimStart text := by
  unfold trimStart
  exact List.dropWhile_append_of_pos blank

theorem trim_start_of_head {text : List Char} {c : Char} (head : text.head? = some c)
    (filled : isBlank c = false) : trimStart text = text := by
  cases text with
  | nil => cases head
  | cons d rest =>
      cases head
      simp [trimStart, filled]

theorem trim_end_blanks {blanks : List Char} (blank : AllBlank blanks) (text : List Char) :
    trimEnd (text ++ blanks) = trimEnd text := by
  have reversed : ∀ c ∈ blanks.reverse, isBlank c = true := by
    intro c member
    exact blank c (List.mem_reverse.mp member)
  unfold trimEnd
  rw [List.reverse_append, List.dropWhile_append_of_pos reversed]

theorem trim_end_of_last {text : List Char} {c : Char} (last : text.getLast? = some c)
    (filled : isBlank c = false) : trimEnd text = text := by
  have head : text.reverse.head? = some c := by rw [List.head?_reverse, last]
  have kept : text.reverse.dropWhile isBlank = text.reverse := trim_start_of_head head filled
  rw [trimEnd, kept, List.reverse_reverse]

theorem trim_blanks_append {blanks : List Char} (blank : AllBlank blanks) (text : List Char) :
    trim (blanks ++ text) = trim text :=
  congrArg trimEnd (trim_start_blanks blank text)

theorem trim_append_blanks {blanks : List Char} (blank : AllBlank blanks) (text : List Char) :
    trim (text ++ blanks) = trim text := by
  have rest : trimStart blanks = [] := by
    simpa [trimStart] using trim_start_blanks blank []
  unfold trim trimStart
  rw [List.dropWhile_append]
  split
  · next empty =>
      rw [List.isEmpty_iff.mp empty]
      exact congrArg trimEnd rest
  · exact trim_end_blanks blank _

theorem trim_tight {text : List Char} (tight : Tight text) : trim text = text := by
  obtain ⟨⟨c, head, filled⟩, d, last, ended⟩ := tight
  rw [trim, trim_start_of_head head filled, trim_end_of_last last ended]

/-- A tight text is what trimming leaves of it and the blanks around it. -/
theorem trim_around {before text after : List Char} (tight : Tight text)
    (blankBefore : AllBlank before) (blankAfter : AllBlank after) :
    trim (before ++ text ++ after) = text := by
  rw [trim_append_blanks blankAfter, trim_blanks_append blankBefore, trim_tight tight]

theorem trim_blank {text : List Char} (blank : AllBlank text) : trim text = [] := by
  have emptied : trimStart text = [] := by
    simpa [trimStart] using trim_start_blanks blank []
  rw [trim, emptied]
  rfl

/-- Trimming leaves a text without the blanks around it. -/
theorem eq_around_trim (text : List Char) :
    ∃ before after, AllBlank before ∧ AllBlank after ∧ text = before ++ trim text ++ after := by
  have leading (from' : List Char) : ∃ blanks, AllBlank blanks ∧
      from' = blanks ++ from'.dropWhile isBlank :=
    ⟨from'.takeWhile isBlank, fun _ member => List.all_eq_true.mp List.all_takeWhile _ member,
      List.takeWhile_append_dropWhile.symm⟩
  obtain ⟨before, blankBefore, started⟩ := leading text
  obtain ⟨after, blankAfter, ended⟩ := leading (trimStart text).reverse
  refine ⟨before, after.reverse, blankBefore,
    fun c member => blankAfter c (List.mem_reverse.mp member), ?_⟩
  have turned := congrArg List.reverse ended
  rw [List.reverse_reverse, List.reverse_append] at turned
  calc text = before ++ trimStart text := started
    _ = before ++ (trim text ++ after.reverse) := congrArg (before ++ ·) turned
    _ = before ++ trim text ++ after.reverse := (List.append_assoc _ _ _).symm

theorem head_trim {before rest : List Char} {c : Char} (blank : AllBlank before)
    (filled : isBlank c = false) : (trim (before ++ c :: rest)).head? = some c := by
  rw [trim_blanks_append blank, trim, trim_start_of_head (by rfl) filled, trimEnd,
    List.reverse_cons, List.dropWhile_append]
  split <;> simp [filled]

theorem head_drop_blanks (text : List Char) :
    (text.dropWhile isBlank).head? = text.find? (!isBlank ·) := by
  induction text with
  | nil => rfl
  | cons c text induction =>
      cases blank : isBlank c with
      | true => simp [blank, induction]
      | false => simp [blank]

theorem last_trim (text : List Char) :
    (trim text).getLast? = text.reverse.find? (!isBlank ·) := by
  have kept : (trim text).getLast? = (trimStart text).reverse.find? (!isBlank ·) := by
    rw [trim, trimEnd, List.getLast?_reverse, head_drop_blanks]
  have dropped : (text.takeWhile isBlank).reverse.find? (!isBlank ·) = none := by
    rw [List.find?_eq_none]
    intro c member
    have blank := List.all_eq_true.mp List.all_takeWhile c (List.mem_reverse.mp member)
    simp [blank]
  calc (trim text).getLast? = (trimStart text).reverse.find? (!isBlank ·) := kept
    _ = (text.takeWhile isBlank ++ trimStart text).reverse.find? (!isBlank ·) := by
        rw [List.reverse_append, List.find?_append, dropped, Option.or_none]
    _ = text.reverse.find? (!isBlank ·) := by
        rw [trimStart, List.takeWhile_append_dropWhile]

/-- Trimming leaves nothing, or a text without blanks at its ends. -/
theorem trim_empty_or_tight (text : List Char) : trim text = [] ∨ Tight (trim text) := by
  have leading : AllBlank (text.takeWhile isBlank) := fun c member =>
    List.all_eq_true.mp List.all_takeWhile c member
  have parts : text.takeWhile isBlank ++ text.dropWhile isBlank = text :=
    List.takeWhile_append_dropWhile
  cases kept : text.dropWhile isBlank with
  | nil =>
      rw [kept, List.append_nil] at parts
      exact .inl (trim_blank (parts ▸ leading))
  | cons c rest =>
      have first := head_drop_blanks text
      rw [kept, List.head?_cons] at first
      have filled : isBlank c = false := by simpa using List.find?_some first.symm
      have member : c ∈ text.reverse := by
        rw [List.mem_reverse, ← parts, kept]
        simp
      obtain ⟨d, found⟩ := Option.isSome_iff_exists.mp
        (List.find?_isSome.mpr ⟨c, member, by simp [filled]⟩ :
          (text.reverse.find? (!isBlank ·)).isSome = true)
      refine .inr ⟨⟨c, ?_, filled⟩, d, (last_trim text).trans found, ?_⟩
      · rw [← parts, kept]
        exact head_trim leading filled
      · simpa using List.find?_some found

end EditImpact.Text
