import EditImpact.Text.CodePoint
import Mathlib.Logic.Function.Basic

/-!
# Texts with lone halves of surrogate pairs

A text has characters, and so bytes, exactly if it was made of them
(`characters_eq_ok_iff`); otherwise the first halves that stand in the way are named
(`characters_cases`).
-/

namespace EditImpact.Text

set_option autoImplicit false

theorem given_injective : Function.Injective given := by
  intro first second same
  induction first generalizing second with
  | nil =>
      cases second with
      | nil => rfl
      | cons c second => nomatch same
  | cons c first induction =>
      cases second with
      | nil => nomatch same
      | cons d second =>
          obtain ⟨⟨⟩, rest⟩ := List.cons.inj same
          rw [induction rest]

@[simp]
theorem given_inj {first second : List Char} : given first = given second ↔ first = second :=
  given_injective.eq_iff

@[simp]
theorem given_beq (first second : List Char) : (given first == given second) = (first == second) := by
  rw [Bool.eq_iff_iff, beq_iff_eq, beq_iff_eq, given_inj]

theorem characters_from_eq_ok_iff {text : Given} {chars : List Char} (position : Nat) :
    charactersFrom position text = .ok chars ↔ text = given chars := by
  induction text generalizing position chars with
  | nil =>
      cases chars with
      | nil => exact ⟨fun _ => rfl, fun _ => rfl⟩
      | cons c chars => exact ⟨nofun, nofun⟩
  | cons point text induction =>
      cases point with
      | half distance =>
          cases chars with
          | nil => exact ⟨nofun, nofun⟩
          | cons c chars => exact ⟨nofun, nofun⟩
      | char c =>
          rw [charactersFrom]
          cases rest : charactersFrom (position + 1) text with
          | error why =>
              refine ⟨nofun, fun same => ?_⟩
              cases chars with
              | nil => nomatch same
              | cons d chars =>
                  obtain ⟨-, later⟩ := List.cons.inj same
                  rw [(induction (position + 1)).mpr later] at rest
                  nomatch rest
          | ok known =>
              rw [(induction (position + 1)).mp rest]
              constructor
              · rintro ⟨⟩
                rfl
              · intro same
                have whole : given (c :: known) = given chars := same
                rw [← given_injective whole]
                rfl

/-- A text has characters exactly if it is made of them. -/
theorem characters_eq_ok_iff {text : Given} {chars : List Char} :
    characters text = .ok chars ↔ text = given chars :=
  characters_from_eq_ok_iff 0

@[simp]
theorem characters_given (text : List Char) : characters (given text) = .ok text :=
  characters_eq_ok_iff.mpr rfl

/-- The first half of a text stands in the way, with those that follow it at once. -/
theorem characters_from_halves (before : List Char) (distance : Fin 2048) (rest : Given)
    (position : Nat) :
    charactersFrom position (given before ++ .half distance :: rest) =
      .error ⟨position + before.length, 0xD800 + distance,
        (rest.takeWhile (·.isHalf)).length + 1⟩ := by
  induction before generalizing position with
  | nil => rfl
  | cons c before induction =>
      show (charactersFrom (position + 1) (given before ++ .half distance :: rest)).map (c :: ·) = _
      rw [induction, List.length_cons, Nat.add_right_comm, Nat.add_assoc]
      rfl

theorem characters_halves (before : List Char) (distance : Fin 2048) (rest : Given) :
    characters (given before ++ .half distance :: rest) =
      .error ⟨before.length, 0xD800 + distance, (rest.takeWhile (·.isHalf)).length + 1⟩ := by
  rw [characters, characters_from_halves, Nat.zero_add]

theorem given_or_halves (text : Given) :
    (∃ chars, text = given chars) ∨
      ∃ before distance rest, text = given before ++ .half distance :: rest := by
  induction text with
  | nil => exact .inl ⟨[], rfl⟩
  | cons point text induction =>
      cases point with
      | half distance => exact .inr ⟨[], distance, text, rfl⟩
      | char c =>
          rcases induction with ⟨chars, rfl⟩ | ⟨before, distance, rest, rfl⟩
          · exact .inl ⟨c :: chars, rfl⟩
          · exact .inr ⟨c :: before, distance, rest, rfl⟩

/-- A text can be written as bytes, or the first of its halves stands in the way. -/
theorem characters_cases (text : Given) :
    (∃ chars, text = given chars ∧ characters text = .ok chars) ∨
      ∃ (before : List Char) (distance : Fin 2048) (rest : Given),
        text = given before ++ .half distance :: rest ∧
          characters text =
            .error ⟨before.length, 0xD800 + distance, (rest.takeWhile (·.isHalf)).length + 1⟩ := by
  rcases given_or_halves text with ⟨chars, rfl⟩ | ⟨before, distance, rest, rfl⟩
  · exact .inl ⟨chars, rfl, characters_given chars⟩
  · exact .inr ⟨before, distance, rest, rfl, characters_halves before distance rest⟩

end EditImpact.Text
