import EditImpact.Source.Collapse
import EditImpact.Proofs.Text.Trim

/-!
What collapsing keeps of a text: every character that is not blank, the first and the last of them
at their ends. Blanks around a text make no difference.
-/

namespace EditImpact.Source

open Text

set_option autoImplicit false

theorem mem_squeeze {text : List Char} {c : Char} (member : c ∈ text) (filled : isBlank c = false)
    (inBlank : Bool) : c ∈ squeeze inBlank text := by
  induction text generalizing inBlank with
  | nil => cases member
  | cons d rest induction =>
      rw [squeeze]
      rcases List.mem_cons.mp member with rfl | later
      · simp [filled]
      · split
        · split
          · exact induction later true
          · exact List.mem_cons_of_mem ' ' (induction later true)
        · exact List.mem_cons_of_mem d (induction later false)

theorem mem_tighten {text : List Char} {c : Char} (member : c ∈ text) (filled : isBlank c = false)
    (after : Bool) : c ∈ tighten after text := by
  induction text generalizing after with
  | nil => cases member
  | cons d rest induction =>
      rw [tighten]
      rcases List.mem_cons.mp member with rfl | later
      · simp [filled]
      · split
        · split
          · exact induction later after
          · exact List.mem_cons_of_mem d (induction later false)
        · exact List.mem_cons_of_mem d (induction later (isPunctuation d))

theorem mem_trim {text : List Char} {c : Char} (member : c ∈ text) (filled : isBlank c = false) :
    c ∈ trim text := by
  obtain ⟨before, after, blankBefore, blankAfter, around⟩ := eq_around_trim text
  rw [around] at member
  rcases List.mem_append.mp member with early | late
  · rcases List.mem_append.mp early with blank | kept
    · rw [blankBefore c blank] at filled
      cases filled
    · exact kept
  · rw [blankAfter c late] at filled
    cases filled

theorem mem_collapse {text : List Char} {c : Char} (member : c ∈ text) (filled : isBlank c = false) :
    c ∈ collapse text :=
  mem_tighten (mem_trim (mem_squeeze member filled false) filled) filled false

theorem squeeze_concat {c : Char} (filled : isBlank c = false) (text : List Char) (inBlank : Bool) :
    ∃ before, squeeze inBlank (text ++ [c]) = before ++ [c] := by
  induction text generalizing inBlank with
  | nil => exact ⟨[], by simp [squeeze, filled]⟩
  | cons d text induction =>
      rw [List.cons_append, squeeze]
      split
      · obtain ⟨before, same⟩ := induction true
        rw [same]
        split
        · exact ⟨before, rfl⟩
        · exact ⟨' ' :: before, rfl⟩
      · obtain ⟨before, same⟩ := induction false
        exact ⟨d :: before, by rw [same]; rfl⟩

theorem tighten_concat {c : Char} (filled : isBlank c = false) (text : List Char) (after : Bool) :
    ∃ before, tighten after (text ++ [c]) = before ++ [c] := by
  induction text generalizing after with
  | nil => exact ⟨[], by simp [tighten, filled]⟩
  | cons d text induction =>
      rw [List.cons_append, tighten]
      split
      · split
        · exact induction after
        · obtain ⟨before, same⟩ := induction false
          exact ⟨d :: before, by rw [same]; rfl⟩
      · obtain ⟨before, same⟩ := induction (isPunctuation d)
        exact ⟨d :: before, by rw [same]; rfl⟩

/-- Squeezing a tight text changes neither of its ends. -/
theorem squeeze_ends {text : List Char} (tight : Tight text) :
    (squeeze false text).head? = text.head? ∧ (squeeze false text).getLast? = text.getLast? := by
  obtain ⟨⟨c, head, filled⟩, d, last, ended⟩ := tight
  obtain ⟨rest, whole⟩ := List.head?_eq_some_iff.mp head
  obtain ⟨body, backwards⟩ := List.getLast?_eq_some_iff.mp last
  obtain ⟨squeezed, same⟩ := squeeze_concat ended body false
  constructor
  · simp [whole, squeeze, filled]
  · rw [backwards, same, List.getLast?_concat, List.getLast?_concat]

/-- In a tight text nothing is left to trim once it is squeezed. -/
theorem collapse_tight {text : List Char} (tight : Tight text) :
    collapse text = tighten false (squeeze false text) := by
  obtain ⟨first, final⟩ := squeeze_ends tight
  have squeezed : Tight (squeeze false text) := by
    rw [Tight, first, final]
    exact tight
  rw [collapse, trim_tight squeezed]

theorem collapse_ends {text : List Char} (tight : Tight text) :
    (collapse text).head? = text.head? ∧ (collapse text).getLast? = text.getLast? := by
  obtain ⟨first, final⟩ := squeeze_ends tight
  rw [collapse_tight tight]
  obtain ⟨⟨c, head, filled⟩, d, last, ended⟩ := tight
  constructor
  · rw [head] at first ⊢
    obtain ⟨more, starts⟩ := List.head?_eq_some_iff.mp first
    simp [starts, tighten, filled]
  · rw [last] at final ⊢
    obtain ⟨body, backwards⟩ := List.getLast?_eq_some_iff.mp final
    obtain ⟨before, ends⟩ := tighten_concat ended body false
    rw [backwards, ends, List.getLast?_concat]

/-- Collapsing drops and changes nothing but blanks. -/
theorem filled_squeeze (inBlank : Bool) (text : List Char) :
    (squeeze inBlank text).filter (!isBlank ·) = text.filter (!isBlank ·) := by
  induction text generalizing inBlank with
  | nil => rfl
  | cons c rest induction =>
      have space : isBlank ' ' = true := by decide
      rw [squeeze]
      split
      · next blank => split <;> simp [induction, blank, space]
      · next filled => simp [induction, filled]

theorem filled_tighten (after : Bool) (text : List Char) :
    (tighten after text).filter (!isBlank ·) = text.filter (!isBlank ·) := by
  induction text generalizing after with
  | nil => rfl
  | cons c rest induction =>
      rw [tighten]
      split
      · next blank => split <;> simp [induction, blank]
      · next filled => simp [induction, filled]

theorem filled_trim (text : List Char) :
    (trim text).filter (!isBlank ·) = text.filter (!isBlank ·) := by
  obtain ⟨before, after, blankBefore, blankAfter, around⟩ := eq_around_trim text
  have none (blanks : List Char) (blank : AllBlank blanks) : blanks.filter (!isBlank ·) = [] := by
    rw [List.filter_eq_nil_iff]
    intro c member
    simp [blank c member]
  have kept := congrArg (List.filter (!isBlank ·)) around
  rw [List.filter_append, List.filter_append, none before blankBefore, none after blankAfter,
    List.nil_append, List.append_nil] at kept
  exact kept.symm

theorem filled_collapse (text : List Char) :
    (collapse text).filter (!isBlank ·) = text.filter (!isBlank ·) := by
  rw [collapse, filled_tighten, filled_trim, filled_squeeze]

theorem squeeze_blanks {blanks : List Char} (blank : AllBlank blanks) (inBlank : Bool) :
    AllBlank (squeeze inBlank blanks) := by
  induction blanks generalizing inBlank with
  | nil => exact all_blank_nil
  | cons c blanks induction =>
      have later := induction (fun d member => blank d (List.mem_cons_of_mem c member)) true
      have space : AllBlank [' '] := by decide
      rw [squeeze, if_pos (blank c List.mem_cons_self)]
      split
      · exact later
      · exact all_blank_append space later

theorem squeeze_append_blanks {blanks : List Char} (blank : AllBlank blanks) (inBlank : Bool)
    (text : List Char) :
    ∃ more, AllBlank more ∧ squeeze inBlank (text ++ blanks) = squeeze inBlank text ++ more := by
  induction text generalizing inBlank with
  | nil => exact ⟨squeeze inBlank blanks, squeeze_blanks blank inBlank, rfl⟩
  | cons c text induction =>
      rw [List.cons_append, squeeze, squeeze]
      obtain ⟨more, blankMore, same⟩ := induction true
      obtain ⟨other, blankOther, sameOther⟩ := induction false
      split
      · split
        · exact ⟨more, blankMore, same⟩
        · exact ⟨more, blankMore, by rw [same]; rfl⟩
      · exact ⟨other, blankOther, by rw [sameOther]; rfl⟩

/-- Whether a text begins inside a run of blanks matters for one leading blank only. -/
theorem trim_squeeze_begun (text : List Char) :
    trim (squeeze true text) = trim (squeeze false text) := by
  cases text with
  | nil => rfl
  | cons c rest =>
      have space : AllBlank [' '] := by decide
      rw [squeeze, squeeze]
      split
      · exact (trim_blanks_append space _).symm
      · rfl

theorem trim_squeeze_blanks {blanks : List Char} (blank : AllBlank blanks) (text : List Char) :
    trim (squeeze false (blanks ++ text)) = trim (squeeze false text) := by
  have space : AllBlank [' '] := by decide
  induction blanks with
  | nil => rfl
  | cons c blanks induction =>
      have later := induction fun d member => blank d (List.mem_cons_of_mem c member)
      rw [List.cons_append, squeeze, if_pos (blank c List.mem_cons_self)]
      exact (trim_blanks_append space _).trans ((trim_squeeze_begun _).trans later)

/-- Blanks around a text make no difference. -/
theorem collapse_around {before after : List Char} (blankBefore : AllBlank before)
    (blankAfter : AllBlank after) (text : List Char) :
    collapse (before ++ text ++ after) = collapse text := by
  obtain ⟨more, blankMore, same⟩ := squeeze_append_blanks blankAfter false (before ++ text)
  rw [collapse, same, trim_append_blanks blankMore, trim_squeeze_blanks blankBefore, collapse]

theorem collapse_unspaced {text : List Char} (filled : ∀ c ∈ text, isBlank c = false) :
    collapse text = text := by
  have squeezed (inBlank : Bool) : squeeze inBlank text = text := by
    induction text generalizing inBlank with
    | nil => rfl
    | cons c rest induction =>
        have later := induction fun d member => filled d (List.mem_cons_of_mem c member)
        simp [squeeze, filled c List.mem_cons_self, later]
  have tightened (after : Bool) : tighten after text = text := by
    clear squeezed
    induction text generalizing after with
    | nil => rfl
    | cons c rest induction =>
        have later := induction fun d member => filled d (List.mem_cons_of_mem c member)
        simp [tighten, filled c List.mem_cons_self, later]
  have trimmed : trim text = text := by
    by_cases empty : text = []
    · rw [empty]
      rfl
    · exact trim_tight ⟨⟨text.head empty, List.head?_eq_some_head empty,
        filled _ (List.head_mem empty)⟩, text.getLast empty, List.getLast?_eq_some_getLast empty,
        filled _ (List.getLast_mem empty)⟩
  rw [collapse, squeezed, trimmed, tightened]

end EditImpact.Source
