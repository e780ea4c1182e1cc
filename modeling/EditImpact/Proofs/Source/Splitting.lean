import EditImpact.Proofs.Source.Levels

/-!
# Splitting by searching

Splitting at a separator and searching for it read brackets and strings alike, whatever the text: the
first piece ends where the search does, and behind it both begin afresh. So pieces that hold no
separator outside brackets and strings, and leave none open, come back from the text they join to
(`split_follows_search`).
-/

namespace EditImpact.Source

open Text Place

set_option autoImplicit false

variable {separator : Char}

/-- The trimmed text as a piece; a blank text is none. -/
def trimmedPiece (text : List Char) : List (List Char) :=
  if trim text = [] then [] else [trim text]

theorem filter_trimmed (text : List Char) (pieces : List (List Char)) :
    ((text :: pieces).map trim).filter (!·.isEmpty) =
      trimmedPiece text ++ (pieces.map trim).filter (!·.isEmpty) := by
  unfold trimmedPiece
  by_cases blank : trim text = []
  · simp [blank]
  · simp [blank]

/-- Whatever stands in front of the first separator is the first piece, and a text without one is
the only piece. -/
theorem split_eq (separator : Char) (text : List Char) :
    splitTop separator text =
      match findTop (isAnyOf [separator]) text with
      | none => trimmedPiece text
      | some index => trimmedPiece (text.take index) ++ splitTop separator (text.drop (index + 1)) := by
  rw [splitTop, cut_eq, findTop]
  cases findFrom (isAnyOf [separator]) .start text with
  | none => exact (filter_trimmed text []).trans (List.append_nil _)
  | some index => exact filter_trimmed _ _

theorem split_joined (plain : isQuote separator = false) {pieces : List (List Char)}
    (filled : ∀ piece ∈ pieces, piece ≠ []) (trimmed : ∀ piece ∈ pieces, trim piece = piece)
    (clear : ∀ piece ∈ pieces, Clear [separator] piece) :
    splitTop separator (joinWith [separator] pieces) = pieces := by
  by_cases empty : pieces = []
  · subst empty
    rfl
  have cut : cutFrom separator .start (joinWith [separator] pieces) = pieces :=
    cut_joined plain empty clear none
  have same : pieces.map trim = pieces := by
    rw [List.map_congr_left trimmed]
    exact List.map_id pieces
  rw [splitTop, cut, same, List.filter_eq_self]
  intro piece member
  simpa using filled piece member

/-- Splitting and searching agree on every text. Hence trimmed pieces that are not blank, hold no
separator outside brackets and strings and close what they open are what their join is split into,
unless the separator is a quote. -/
theorem split_follows_search (separator : Char) :
    (∀ text, splitTop separator text =
      match findTop (isAnyOf [separator]) text with
      | none => trimmedPiece text
      | some index =>
          trimmedPiece (text.take index) ++ splitTop separator (text.drop (index + 1))) ∧
      (isQuote separator = false → ∀ pieces : List (List Char),
        (∀ piece ∈ pieces, piece ≠ [] ∧ trim piece = piece ∧
          findTop (isAnyOf [separator]) piece = none ∧ (start.through piece).isTop = true) →
        splitTop separator (joinWith [separator] pieces) = pieces) := by
  refine ⟨split_eq separator, fun plain pieces formed => ?_⟩
  exact split_joined plain (fun piece member => (formed piece member).1)
    (fun piece member => (formed piece member).2.1)
    fun piece member => ⟨(formed piece member).2.2.2, (formed piece member).2.2.1⟩

/-- Separators in angles, in a string and in parentheses before an arrow. -/
theorem split_keeps_nested_separators :
    let pieces := ["Map<K | V, W>".toList, "'a|b'".toList, "(x | y) => z".toList]
    (∀ piece ∈ pieces, piece ≠ [] ∧ trim piece = piece ∧
        findTop (isAnyOf ['|']) piece = none ∧ (start.through piece).isTop = true) ∧
      splitTop '|' "Map<K | V, W>|'a|b'|(x | y) => z".toList = pieces := by
  intro pieces
  have formed : ∀ piece ∈ pieces, piece ≠ [] ∧ trim piece = piece ∧
      findTop (isAnyOf ['|']) piece = none ∧ (start.through piece).isTop = true := by
    decide +kernel
  exact ⟨formed, (split_follows_search '|').2 (by decide) pieces formed⟩

end EditImpact.Source
