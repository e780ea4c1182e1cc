import EditImpact.Signature.Params
import EditImpact.Proofs.Source.Levels
import EditImpact.Proofs.Source.Uncommented

/-!
# Parameter lists as pieces

A written parameter list is a row of pieces with commas between them, with or without parentheses
around it. Its canonical form is made of the canonical forms of the pieces, each on its own
(`normalize_pieces`).
-/

namespace EditImpact.Signature

open Source Text

set_option autoImplicit false

/-- A parameter as it is written, with the blanks around it. -/
structure Piece (language : Option Language) where
  before : List Char
  core : List Char
  after : List Char
  blankBefore : AllBlank before
  blankAfter : AllBlank after
  tight : Tight core
  level : Level core
  uncommented : Uncommented language core

def Piece.text {language : Option Language} (piece : Piece language) : List Char :=
  piece.before ++ piece.core ++ piece.after

/-- What stands around the parameters: parentheses or none, and blanks. -/
structure Frame where
  parens : Bool
  before : List Char
  inner : List Char
  after : List Char
  blankBefore : AllBlank before
  blankInner : AllBlank inner
  blankAfter : AllBlank after

/-- The written list. -/
def Frame.around (frame : Frame) (texts : List (List Char)) : List Char :=
  let listed := frame.inner ++ joinWith [','] texts
  frame.before ++ (if frame.parens then '(' :: listed ++ [')'] else listed) ++ frame.after

theorem blank_calm {c : Char} (blank : isBlank c = true) : isCalm c = true := by
  have other (d : Char) (filled : isBlank d = false) : c ≠ d := ne_of_blank blank filled
  simp only [isCalm, (blank_plain blank).1, Bool.and_eq_true, bne_iff_ne, Bool.not_false, true_and]
  exact ⟨⟨other _ (by decide), other _ (by decide)⟩, other _ (by decide)⟩

theorem all_blank_calm {blanks : List Char} (blank : AllBlank blanks) :
    ∀ c ∈ blanks, isCalm c = true := fun c member => blank_calm (blank c member)

theorem calm_between_blanks {before after : List Char} {c : Char} (calm : isCalm c = true)
    (blankBefore : AllBlank before) (blankAfter : AllBlank after) :
    ∀ d ∈ before ++ c :: after, isCalm d = true := by
  intro d member
  rcases List.mem_append.mp member with early | late
  · exact all_blank_calm blankBefore d early
  · rcases List.mem_cons.mp late with rfl | later
    · exact calm
    · exact all_blank_calm blankAfter d later

theorem all_blank_level {blanks : List Char} (blank : AllBlank blanks) : Level blanks :=
  .of_blank blank (by decide)

namespace Piece

variable {language : Option Language}

theorem level_text (piece : Piece language) : Level piece.text :=
  ((all_blank_level piece.blankBefore).append piece.level).append
    (all_blank_level piece.blankAfter)

theorem trim_text (piece : Piece language) : trim piece.text = piece.core :=
  trim_around piece.tight piece.blankBefore piece.blankAfter

theorem uncommented_text (piece : Piece language) : Uncommented language piece.text :=
  (Uncommented.calm_append (all_blank_calm piece.blankBefore) piece.uncommented).append_calm
    (all_blank_calm piece.blankAfter)

end Piece

variable {language : Option Language}

/-- Pieces between commas are read as they are. -/
theorem uncommented_joined (pieces : List (Piece language)) :
    Uncommented language (joinWith [','] (pieces.map Piece.text)) := by
  induction pieces with
  | nil => exact ⟨rfl, rfl⟩
  | cons piece pieces induction =>
      cases pieces with
      | nil => exact piece.uncommented_text
      | cons next pieces =>
          exact piece.uncommented_text.around_calm (by decide) (by simp) induction

theorem uncommented_around (frame : Frame) (pieces : List (Piece language)) :
    Uncommented language (frame.around (pieces.map Piece.text)) := by
  have listed : Uncommented language (frame.inner ++ joinWith [','] (pieces.map Piece.text)) :=
    .calm_append (all_blank_calm frame.blankInner) (uncommented_joined pieces)
  apply Uncommented.append_calm _ (all_blank_calm frame.blankAfter)
  apply Uncommented.calm_append (all_blank_calm frame.blankBefore)
  split
  · exact Uncommented.append_calm
      (.calm_append (by decide : ∀ c ∈ ['('], isCalm c = true) listed) (by decide)
  · exact listed

theorem split_pieces (pieces : List (Piece language)) :
    splitTop ',' (joinWith [','] (pieces.map Piece.text)) = pieces.map Piece.core := by
  by_cases empty : pieces = []
  · subst empty
    rfl
  have filled : pieces.map Piece.text ≠ [] := by simpa using empty
  have cut : cutFrom ',' (Place.top none) (joinWith [','] (pieces.map Piece.text)) =
      pieces.map Piece.text := by
    apply cut_joined (by decide) filled
    intro text member
    obtain ⟨piece, -, rfl⟩ := List.mem_map.mp member
    exact piece.level_text
  have cores : (pieces.map Piece.text).map trim = pieces.map Piece.core := by
    rw [List.map_map]
    exact List.map_congr_left fun piece _ => piece.trim_text
  change ((cutFrom ',' (Place.top none) _).map trim).filter _ = _
  rw [cut, cores, List.filter_eq_self]
  intro core member
  obtain ⟨piece, -, rfl⟩ := List.mem_map.mp member
  simpa using piece.tight.ne_nil

/-- Without parentheses around it, the list does not begin with one. -/
def Frame.Fits (frame : Frame) (pieces : List (Piece language)) : Prop :=
  frame.parens = false → ∀ piece, pieces.head? = some piece → piece.core.head? ≠ some '('

theorem tight_parens (text : List Char) : Tight ('(' :: text ++ [')']) :=
  ⟨⟨'(', rfl, by decide⟩, ')', List.getLast?_concat, by decide⟩

theorem without_parens_around (text : List Char) : withoutParens ('(' :: text ++ [')']) = text := by
  have last : ('(' :: text ++ [')']).getLast? = some ')' := List.getLast?_concat
  rw [withoutParens, last]
  simp

theorem join_cons (separator text : List Char) (texts : List (List Char)) :
    ∃ rest, joinWith separator (text :: texts) = text ++ rest := by
  cases texts with
  | nil => exact ⟨[], (List.append_nil text).symm⟩
  | cons next texts => exact ⟨_, List.append_assoc text separator _⟩

theorem head_around {frame : Frame} {pieces : List (Piece language)} (fits : frame.Fits pieces)
    (parens : frame.parens = false) :
    (trim (frame.around (pieces.map Piece.text))).head? ≠ some '(' := by
  cases pieces with
  | nil =>
      have blank : AllBlank (frame.around []) := by
        simpa [Frame.around, parens, joinWith] using all_blank_append frame.blankBefore
          (all_blank_append frame.blankInner frame.blankAfter)
      rw [List.map_nil, trim_blank blank]
      simp
  | cons piece pieces =>
      obtain ⟨rest, joined⟩ := join_cons [','] piece.text (pieces.map Piece.text)
      obtain ⟨⟨c, head, filled⟩, -⟩ := piece.tight
      obtain ⟨more, core⟩ := List.head?_eq_some_iff.mp head
      have around : frame.around ((piece :: pieces).map Piece.text) =
          (frame.before ++ (frame.inner ++ piece.before)) ++
            c :: (more ++ piece.after ++ rest ++ frame.after) := by
        simp only [Frame.around, parens, List.map_cons, joined]
        simp [Piece.text, core]
      have blank := all_blank_append frame.blankBefore
        (all_blank_append frame.blankInner piece.blankBefore)
      rw [around, head_trim blank filled, ← head]
      exact fits parens piece rfl

/-- Reading a written list finds its pieces. -/
theorem split_around_pieces (frame : Frame) (pieces : List (Piece language))
    (fits : frame.Fits pieces) :
    splitTop ',' (withoutParens (trim (frame.around (pieces.map Piece.text)))) =
      pieces.map Piece.core := by
  cases parens : frame.parens with
  | true =>
      have inside : withoutParens (trim (frame.around (pieces.map Piece.text))) =
          frame.inner ++ joinWith [','] (pieces.map Piece.text) := by
        simp only [Frame.around, parens, if_true]
        rw [trim_around (tight_parens _) frame.blankBefore frame.blankAfter, without_parens_around]
      have split := split_around frame.blankInner all_blank_nil
        (joinWith [','] (pieces.map Piece.text))
      rw [List.append_nil] at split
      rw [inside, split, split_pieces]
  | false =>
      have whole : frame.around (pieces.map Piece.text) = frame.before ++ frame.inner ++
          joinWith [','] (pieces.map Piece.text) ++ frame.after := by
        simp [Frame.around, parens]
      have blank := all_blank_append frame.blankBefore frame.blankInner
      obtain ⟨before, after, blankBefore, blankAfter, around⟩ :=
        eq_around_trim (frame.around (pieces.map Piece.text))
      have bare : withoutParens (trim (frame.around (pieces.map Piece.text))) =
          trim (frame.around (pieces.map Piece.text)) := by
        simp [withoutParens, head_around fits parens]
      rw [bare, ← split_around blankBefore blankAfter, ← around, whole,
        split_around blank frame.blankAfter, split_pieces]

/-- The canonical form of a written list is made of those of its pieces. -/
theorem normalize_pieces (frame : Frame) (pieces : List (Piece language))
    (fits : frame.Fits pieces) :
    normalizeParams language (frame.around (pieces.map Piece.text)) =
      joinWith [','] (pieces.map fun piece => normalizeParam language piece.core) := by
  rw [normalizeParams, (uncommented_around frame pieces).kept, split_around_pieces frame pieces fits,
    List.map_map]
  rfl

end EditImpact.Signature
