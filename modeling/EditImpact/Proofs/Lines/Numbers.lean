import EditImpact.LineDelta
import Mathlib.Data.List.Basic

/-!
# Line numbers of a delta

The lists of a delta are in increasing order without repetitions, so they are what a walk through
the text in line order gathers (`sorted_distinct_of_increasing`). `Numbering` says which numbers
such a list may hold.
-/

namespace EditImpact

set_option autoImplicit false

namespace LineDelta

theorem mem_insert_sorted {n m : Int} {numbers : List Int} :
    n ∈ insertSorted m numbers ↔ n = m ∨ n ∈ numbers := by
  induction numbers with
  | nil => exact List.mem_cons
  | cons k rest induction =>
      rw [insertSorted]
      split
      · exact List.mem_cons
      · split
        · next same => simp [same]
        · simp only [List.mem_cons, induction]
          exact or_left_comm

theorem mem_sorted_distinct {n : Int} {numbers : List Int} :
    n ∈ sortedDistinct numbers ↔ n ∈ numbers := by
  induction numbers with
  | nil => exact Iff.rfl
  | cons m rest induction =>
      rw [sortedDistinct, List.foldr_cons, mem_insert_sorted, ← sortedDistinct, induction,
        List.mem_cons]

theorem sorted_distinct_of_increasing {numbers : List Int} (increasing : numbers.Pairwise (· < ·)) :
    sortedDistinct numbers = numbers := by
  induction numbers with
  | nil => rfl
  | cons m rest induction =>
      obtain ⟨first, later⟩ := List.pairwise_cons.mp increasing
      rw [sortedDistinct, List.foldr_cons, ← sortedDistinct, induction later]
      cases rest with
      | nil => rfl
      | cons k rest => exact if_pos (first k List.mem_cons_self)

theorem mem_changed {n : Int} {delta : LineDelta} :
    n ∈ delta.changed ↔ n ∈ delta.added ∨ n ∈ delta.modified := by
  rw [changed, mem_sorted_distinct, List.mem_append]

end LineDelta

namespace Lines

/-- Increasing numbers out of the `count` numbers that begin with `first`. -/
structure Numbering (first : Int) (count : Nat) (numbers : List Int) : Prop where
  increasing : numbers.Pairwise (· < ·)
  within : ∀ n ∈ numbers, first ≤ n ∧ n < first + count

namespace Numbering

variable {first : Int} {count more : Nat} {numbers others : List Int}

theorem nil : Numbering first count [] := ⟨.nil, nofun⟩

theorem sublist (numbering : Numbering first count numbers) (fewer : others.Sublist numbers) :
    Numbering first count others :=
  ⟨numbering.increasing.sublist fewer, fun n member => numbering.within n (fewer.subset member)⟩

theorem append (before : Numbering first count numbers)
    (behind : Numbering (first + count) more others) :
    Numbering first (count + more) (numbers ++ others) := by
  constructor
  · refine List.pairwise_append.mpr ⟨before.increasing, behind.increasing, ?_⟩
    intro n member m memberToo
    have := (before.within n member).2
    have := (behind.within m memberToo).1
    omega
  · intro n member
    rcases List.mem_append.mp member with member | member
    · have := before.within n member
      omega
    · have := behind.within n member
      omega

/-- A line in front that is not listed. -/
theorem behind_one (numbering : Numbering (first + 1) count numbers) :
    Numbering first (count + 1) numbers := by
  refine ⟨numbering.increasing, ?_⟩
  intro n member
  have := numbering.within n member
  omega

end Numbering

/-- Consecutive line numbers. -/
def numbersFrom (first : Int) : Nat → List Int
  | 0 => []
  | count + 1 => first :: numbersFrom (first + 1) count

theorem length_numbers_from (first : Int) (count : Nat) :
    (numbersFrom first count).length = count := by
  induction count generalizing first with
  | zero => rfl
  | succ count induction => rw [numbersFrom, List.length_cons, induction]

theorem mem_numbers_from {n first : Int} {count : Nat} :
    n ∈ numbersFrom first count ↔ first ≤ n ∧ n < first + count := by
  induction count generalizing first with
  | zero =>
      simp only [numbersFrom, List.not_mem_nil, false_iff]
      omega
  | succ count induction =>
      rw [numbersFrom, List.mem_cons, induction]
      omega

theorem numbers_from_numbering (first : Int) (count : Nat) :
    Numbering first count (numbersFrom first count) := by
  refine ⟨?_, fun n => mem_numbers_from.mp⟩
  induction count generalizing first with
  | zero => exact .nil
  | succ count induction =>
      refine List.pairwise_cons.mpr ⟨?_, induction (first + 1)⟩
      intro n member
      have := (mem_numbers_from.mp member).1
      omega

end Lines

end EditImpact
