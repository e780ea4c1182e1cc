import EditImpact.Proofs.Pattern.Horizon
import EditImpact.Proofs.Pattern.Readings
import EditImpact.Pattern.Build
import Mathlib.Data.List.Forall2
import Mathlib.Data.List.Infix

/-!
# Patterns on joined lines

A pattern without anchors, edges and looks around asks for nothing but the characters it reads, so
what it can read in one place it can read anywhere (`takes_anywhere`). If it reads no newline
either, it occurs in joined lines if and only if it occurs on one of them (`occurs_joined_iff`).
What words find in any letter case is told by the words alone (`occurs_any_word_iff`).
-/

namespace EditImpact.Pattern

open Text

set_option autoImplicit false

/-- The pattern asks for nothing but the characters it reads. -/
def isPlain : Pattern → Bool
  | empty => true
  | char _ => true
  | seq first second => first.isPlain && second.isPlain
  | alt first second => first.isPlain && second.isPlain
  | rep _ _ _ body => body.isPlain
  | capture body => body.isPlain
  | _ => false

section Readings

variable {round : Option Char → List Char → List Char → Prop} {least : Nat} {most : Option Nat}
  {pattern : Pattern} {last : Option Char} {read rest : List Char} {stop : Char}

theorem Rounds.anywhere
    (rounds : Rounds round least most last read rest)
    (each : ∀ {last read rest}, round last read rest → ∀ before after, round before read after)
    (before : Option Char) (after : List Char) : Rounds round least most before read after := by
  induction rounds generalizing before with
  | stop enough => exact .stop enough
  | again going moved here later induction =>
      exact .again going moved (each here _ _) (induction _)

theorem takes_anywhere (plain : pattern.isPlain = true) (takes : pattern.Takes last read rest)
    (before : Option Char) (after : List Char) : pattern.Takes before read after := by
  induction pattern generalizing last read rest before after with
  | empty => exact takes
  | char set => exact takes
  | seq first second firstCase secondCase =>
      rw [isPlain, Bool.and_eq_true] at plain
      obtain ⟨front, back, text, here, later⟩ := takes
      exact ⟨front, back, text, firstCase plain.1 here _ _, secondCase plain.2 later _ _⟩
  | alt first second firstCase secondCase =>
      rw [isPlain, Bool.and_eq_true] at plain
      exact takes.imp (firstCase plain.1 · _ _) (secondCase plain.2 · _ _)
  | rep greedy least most body bodyCase =>
      exact Rounds.anywhere takes (bodyCase plain · · ·) before after
  | capture body bodyCase => exact bodyCase plain takes before after
  | wordEdge => cases plain
  | textStart => cases plain
  | lineStart => cases plain
  | textEnd => cases plain
  | notBefore set => cases plain
  | notAfter set => cases plain

theorem Rounds.avoid (rounds : Rounds round least most last read rest)
    (each : ∀ {last read rest}, round last read rest → stop ∉ read) : stop ∉ read := by
  induction rounds with
  | stop enough => exact List.not_mem_nil
  | again going moved here later induction =>
      rw [List.mem_append, not_or]
      exact ⟨each here, induction⟩

theorem takes_avoid (avoiding : pattern.avoids stop = true)
    (takes : pattern.Takes last read rest) : stop ∉ read := by
  induction pattern generalizing last read rest with
  | char set =>
      obtain ⟨c, contains, rfl⟩ := takes
      rw [List.mem_singleton]
      rintro rfl
      simp [avoids, contains] at avoiding
  | seq first second firstCase secondCase =>
      rw [avoids, Bool.and_eq_true] at avoiding
      obtain ⟨front, back, rfl, here, later⟩ := takes
      rw [List.mem_append, not_or]
      exact ⟨firstCase avoiding.1 here, secondCase avoiding.2 later⟩
  | alt first second firstCase secondCase =>
      rw [avoids, Bool.and_eq_true] at avoiding
      exact takes.elim (firstCase avoiding.1) (secondCase avoiding.2)
  | rep greedy least most body bodyCase => exact Rounds.avoid takes (bodyCase avoiding)
  | capture body bodyCase => exact bodyCase avoiding takes
  | textEnd => cases avoiding
  | empty =>
      obtain rfl := takes
      exact List.not_mem_nil
  -- these read nothing
  | wordEdge => exact takes.1 ▸ List.not_mem_nil
  | textStart => exact takes.1 ▸ List.not_mem_nil
  | lineStart => exact takes.1 ▸ List.not_mem_nil
  | notBefore set => exact takes.1 ▸ List.not_mem_nil
  | notAfter set => exact takes.1 ▸ List.not_mem_nil

end Readings

/-! ## Parts of joined lines -/

theorem infix_joined {separator line : List Char} {lines : List (List Char)}
    (member : line ∈ lines) : line <:+: joinWith separator lines := by
  induction lines with
  | nil => cases member
  | cons first lines induction =>
      cases lines with
      | nil =>
          rw [List.mem_singleton] at member
          exact member ▸ List.infix_refl first
      | cons next lines =>
          rw [joinWith]
          rcases List.mem_cons.mp member with rfl | later
          · exact ((List.prefix_append _ _).trans (List.prefix_append _ _)).isInfix
          · exact (induction later).trans (List.suffix_append _ _).isInfix

/-- A part without the separator lies within one of the lines. -/
theorem exists_line_of_infix {c : Char} {part : List Char} {lines : List (List Char)}
    (filled : lines ≠ []) (free : c ∉ part) (inside : part <:+: joinWith [c] lines) :
    ∃ line ∈ lines, part <:+: line := by
  induction lines with
  | nil => exact absurd rfl filled
  | cons first lines induction =>
      cases lines with
      | nil => exact ⟨first, List.mem_cons_self, inside⟩
      | cons next lines =>
          obtain ⟨before, after, text⟩ := inside
          rw [joinWith, List.append_assoc, List.append_assoc, List.singleton_append] at text
          rcases List.append_eq_append_iff.mp text with ⟨gap, rfl, behind⟩ | ⟨own, rfl, behind⟩
          · -- the part begins on the first line
            rcases List.append_eq_append_iff.mp behind with ⟨more, rfl, -⟩ | ⟨cut, rfl, across⟩
            · exact ⟨_, List.mem_cons_self, before, more, by rw [List.append_assoc]⟩
            · cases cut with
              | nil => exact ⟨_, List.mem_cons_self, before, [], by simp⟩
              | cons d cut =>
                  obtain ⟨rfl, -⟩ := List.cons.inj across
                  simp at free
          · cases own with
            | nil =>
                cases part with
                | nil => exact ⟨first, List.mem_cons_self, List.nil_infix⟩
                | cons d part =>
                    obtain ⟨rfl, -⟩ := List.cons.inj behind
                    exact absurd List.mem_cons_self free
            | cons d own =>
                obtain ⟨-, later⟩ := List.cons.inj behind
                obtain ⟨line, member, within⟩ := induction (List.cons_ne_nil _ _)
                  ⟨own, after, (List.append_assoc _ _ _).trans later.symm⟩
                exact ⟨line, List.mem_cons_of_mem first member, within⟩

theorem occurs_of_infix {pattern : Pattern} (plain : pattern.isPlain = true)
    {part text : List Char} (inside : part <:+: text) (occurs : pattern.occurs part = true) :
    pattern.occurs text = true := by
  obtain ⟨front, back, rfl⟩ := inside
  obtain ⟨before, read, after, rfl, takes⟩ := occurs_iff.mp occurs
  refine occurs_iff.mpr ⟨front ++ before, read, after ++ back, ?_, takes_anywhere plain takes _ _⟩
  simp only [List.append_assoc]

/-- A pattern that reads no newline is found on one of the lines. -/
theorem occurs_joined_iff {pattern : Pattern} (plain : pattern.isPlain = true)
    (avoiding : pattern.avoids '\n' = true) {lines : List (List Char)} (filled : lines ≠ []) :
    pattern.occurs (joinWith ['\n'] lines) = true ↔
      ∃ line ∈ lines, pattern.occurs line = true := by
  constructor
  · intro occurs
    obtain ⟨before, read, after, text, takes⟩ := occurs_iff.mp occurs
    have inside : read <:+: joinWith ['\n'] lines :=
      ⟨before, after, (List.append_assoc _ _ _).trans text.symm⟩
    obtain ⟨line, member, front, back, whole⟩ :=
      exists_line_of_infix filled (takes_avoid avoiding takes) inside
    refine ⟨line, member, occurs_iff.mpr ⟨front, read, back, ?_, takes_anywhere plain takes _ _⟩⟩
    rw [← whole, List.append_assoc]
  · rintro ⟨line, member, occurs⟩
    exact occurs_of_infix plain (infix_joined member) occurs

/-! ## Words in any letter case -/

/-- One of the words stands somewhere in the text, in any letter case. -/
def HoldsWord (words : List String) (text : List Char) : Prop :=
  ∃ word ∈ words, ∃ before read after, text = before ++ (read ++ after) ∧
    List.Forall₂ (fun c d => sameLetter c d = true) word.toList read

theorem takes_folded_chars {word : List Char} {last : Option Char} {read rest : List Char} :
    (chars word).ignoringCase.Takes last read rest ↔
      List.Forall₂ (fun c d => sameLetter c d = true) word read := by
  have single (c : Char) (last : Option Char) (read rest : List Char) :
      (one c).ignoringCase.Takes last read rest ↔ ∃ d, sameLetter c d = true ∧ read = [d] := by
    simp [one, ignoringCase, Takes, CharSet.contains, CharItem.holdsFolded]
  induction word generalizing last read rest with
  | nil =>
      rw [List.forall₂_nil_left_iff]
      rfl
  | cons c word induction =>
      rw [List.forall₂_cons_left_iff]
      cases word with
      | nil => simpa [chars] using single c last read rest
      | cons d word =>
          simp only [chars, ignoringCase, Takes, single, induction]
          constructor
          · rintro ⟨_, back, rfl, ⟨e, same, rfl⟩, later⟩
            exact ⟨e, back, same, later, rfl⟩
          · rintro ⟨e, back, same, later, rfl⟩
            exact ⟨[e], back, rfl, ⟨e, same, rfl⟩, later⟩

theorem first_of_ignoring_case (patterns : List Pattern) :
    (firstOf patterns).ignoringCase = firstOf (patterns.map ignoringCase) := by
  induction patterns with
  | nil => rfl
  | cons pattern patterns induction =>
      cases patterns with
      | nil => rfl
      | cons other patterns => exact congrArg (alt pattern.ignoringCase) induction

theorem takes_folded_any_word {words : List String} (some' : words ≠ []) {last : Option Char}
    {read rest : List Char} : (anyWord words).ignoringCase.Takes last read rest ↔
      ∃ word ∈ words, List.Forall₂ (fun c d => sameLetter c d = true) word.toList read := by
  rw [anyWord, first_of_ignoring_case, takes_first_of (by simpa using some')]
  simp [lit, takes_folded_chars]

theorem occurs_any_word_iff {words : List String} (some' : words ≠ []) {text : List Char} :
    (anyWord words).ignoringCase.occurs text = true ↔ HoldsWord words text := by
  rw [occurs_iff]
  simp only [takes_folded_any_word some']
  constructor
  · rintro ⟨before, read, after, whole, word, listed, same⟩
    exact ⟨word, listed, before, read, after, whole, same⟩
  · rintro ⟨word, listed, before, read, after, whole, same⟩
    exact ⟨before, read, after, whole, word, listed, same⟩

end EditImpact.Pattern
