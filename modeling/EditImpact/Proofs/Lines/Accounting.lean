import EditImpact.Proofs.Lines.Scripts
import Mathlib.Data.List.Basic

/-!
# A line delta accounts for every line

Pairing removed with added lines keeps the counts of an edit script exact. Taking the added and
modified lines out of the new text, and as many lines out of the old one, leaves the same lines
(`Accounts`), whatever valid script the delta was made from (`lines_are_accounted_for`).
-/

namespace EditImpact

set_option autoImplicit false

namespace LineDelta

/-- One delta behind another. -/
def append (first second : LineDelta) : LineDelta where
  added := first.added ++ second.added
  removed := first.removed ++ second.removed
  modified := first.modified ++ second.modified

theorem is_empty_iff {delta : LineDelta} : delta.isEmpty = true ↔
    delta.added = [] ∧ delta.removed = [] ∧ delta.modified = [] := by
  simp only [isEmpty, size, beq_iff_eq, Nat.add_eq_zero_iff, List.length_eq_zero_iff, and_assoc]

end LineDelta

namespace Lines

/-! ## What is gathered from a script -/

namespace Gathered

/-- The same lines waiting, with a delta in front of what was gathered. -/
def behind (delta : LineDelta) (gathered : Gathered) : Gathered :=
  { gathered with delta := delta.append gathered.delta }

theorem flush_behind (delta : LineDelta) (gathered : Gathered) :
    (gathered.behind delta).flush = gathered.flush.behind delta := by
  simp only [flush, behind, LineDelta.append, List.append_assoc]

theorem feed_behind (delta : LineDelta) (gathered : Gathered) (line : HunkLine) :
    (gathered.behind delta).feed line = (gathered.feed line).behind delta := by
  cases line with
  | kept => exact flush_behind delta gathered
  | added n => rfl
  | removed n =>
      simp only [feed, flush_behind]
      unfold behind
      cases gathered.plus.isEmpty <;> rfl

theorem feed_hunk_behind (delta : LineDelta) (gathered : Gathered) (hunk : Hunk) :
    (gathered.behind delta).feedHunk hunk = (gathered.feedHunk hunk).behind delta := by
  have fed : ∀ gathered : Gathered,
      hunk.foldl feed (gathered.behind delta) = (hunk.foldl feed gathered).behind delta := by
    induction hunk with
    | nil => exact fun _ => rfl
    | cons line hunk induction =>
        intro gathered
        rw [List.foldl_cons, feed_behind]
        exact induction (gathered.feed line)
  rw [feedHunk, fed, flush_behind]
  rfl

theorem feed_hunks_behind (delta : LineDelta) (gathered : Gathered) (hunks : List Hunk) :
    hunks.foldl feedHunk (gathered.behind delta) =
      (hunks.foldl feedHunk gathered).behind delta := by
  induction hunks generalizing gathered with
  | nil => rfl
  | cons hunk hunks induction =>
      rw [List.foldl_cons, feed_hunk_behind]
      exact induction (gathered.feedHunk hunk)

theorem feed_removed {gathered : Gathered} (nothing : gathered.plus = []) (numbers : List Int) :
    (numbers.map .removed).foldl feed gathered =
      { gathered with minus := gathered.minus ++ numbers } := by
  induction numbers generalizing gathered with
  | nil => simp
  | cons n numbers induction =>
      have fed : gathered.feed (.removed n) = { gathered with minus := gathered.minus ++ [n] } := by
        simp [feed, nothing]
      have later := @induction { gathered with minus := gathered.minus ++ [n] } nothing
      rw [List.map_cons, List.foldl_cons, fed, later, List.append_assoc]
      rfl

theorem feed_added (gathered : Gathered) (numbers : List Int) :
    (numbers.map .added).foldl feed gathered =
      { gathered with plus := gathered.plus ++ numbers } := by
  induction numbers generalizing gathered with
  | nil => simp
  | cons n numbers induction =>
      rw [List.map_cons, List.foldl_cons, feed, induction]
      simp

end Gathered

/-- What a block adds to a delta: its lines in pairs, and what is left over on either side. -/
def blockDelta (oldLine : Int) (gone : Nat) (newLine : Int) (come : Nat) : LineDelta where
  added := (numbersFrom newLine come).drop (min gone come)
  removed := (numbersFrom oldLine gone).drop (min gone come)
  modified := (numbersFrom newLine come).take (min gone come)

theorem feed_block (oldLine : Int) (gone : Nat) (newLine : Int) (come : Nat) :
    ({} : Gathered).feedHunk (block oldLine gone newLine come) =
      { delta := blockDelta oldLine gone newLine come } := by
  rw [Gathered.feedHunk, block, List.foldl_append, Gathered.feed_removed rfl, Gathered.feed_added]
  simp [Gathered.flush, length_numbers_from, blockDelta]

/-- The lists of a delta as the hunks add to them. -/
def gathered (hunks : List Hunk) : LineDelta := (hunks.foldl Gathered.feedHunk {}).delta

theorem gathered_block (oldLine : Int) (gone : Nat) (newLine : Int) (come : Nat)
    (hunks : List Hunk) :
    gathered (block oldLine gone newLine come :: hunks) =
      (blockDelta oldLine gone newLine come).append (gathered hunks) := by
  have start : ({ delta := blockDelta oldLine gone newLine come } : Gathered) =
      ({} : Gathered).behind (blockDelta oldLine gone newLine come) := by
    simp [Gathered.behind, LineDelta.append]
  rw [gathered, List.foldl_cons, feed_block, start, Gathered.feed_hunks_behind]
  rfl

/-! ## Lines left over -/

variable {Line : Type}

/-- The lines whose numbers are not listed; the first line has the number `first`. -/
def linesOutside (numbers : List Int) : Int → List Line → List Line
  | _, [] => []
  | first, line :: lines =>
    if first ∈ numbers then linesOutside numbers (first + 1) lines
    else line :: linesOutside numbers (first + 1) lines

theorem lines_outside_nil (first : Int) (lines : List Line) :
    linesOutside [] first lines = lines := by
  induction lines generalizing first with
  | nil => rfl
  | cons line lines induction => rw [linesOutside, if_neg List.not_mem_nil, induction]

theorem lines_outside_append (numbers : List Int) (first : Int) (lines more : List Line) :
    linesOutside numbers first (lines ++ more) =
      linesOutside numbers first lines ++ linesOutside numbers (first + lines.length) more := by
  induction lines generalizing first with
  | nil => simp [linesOutside]
  | cons line lines induction =>
      rw [add_length_cons, List.cons_append, linesOutside, linesOutside, induction]
      split <;> rfl

theorem lines_outside_congr {numbers others : List Int} {first : Int} {lines : List Line}
    (same : ∀ n, first ≤ n → (n ∈ numbers ↔ n ∈ others)) :
    linesOutside numbers first lines = linesOutside others first lines := by
  induction lines generalizing first with
  | nil => rfl
  | cons line lines induction =>
      have later : linesOutside numbers (first + 1) lines = linesOutside others (first + 1) lines :=
        induction fun n below => same n (by omega)
      simp only [linesOutside, same first (Int.le_refl first), later]

theorem lines_outside_eq_nil_iff {numbers : List Int} {first : Int} {lines : List Line} :
    linesOutside numbers first lines = [] ↔
      ∀ n, first ≤ n → n < first + lines.length → n ∈ numbers := by
  induction lines generalizing first with
  | nil =>
      refine iff_of_true rfl fun n below above => ?_
      rw [List.length_nil] at above
      omega
  | cons line lines induction =>
      rw [add_length_cons, linesOutside]
      split
      · next here =>
          rw [induction]
          constructor
          · intro all n below above
            rcases Int.lt_or_eq_of_le below with later | rfl
            · exact all n (by omega) above
            · exact here
          · intro all n below above
            exact all n (by omega) above
      · next missing =>
          exact iff_of_false (List.cons_ne_nil _ _) fun all =>
            missing (all first (Int.le_refl first) (by omega))

/-- Without the whole block of lines in front, the others are left. -/
theorem lines_outside_block {numbers later : List Int} {first : Int} {lines more : List Line}
    (listed : ∀ n, n ∈ numbers ↔ n ∈ numbersFrom first lines.length ∨ n ∈ later) :
    linesOutside numbers first (lines ++ more) =
      linesOutside later (first + lines.length) more := by
  have block : linesOutside numbers first lines = [] := by
    apply lines_outside_eq_nil_iff.mpr
    intro n below above
    exact (listed n).mpr (.inl (mem_numbers_from.mpr ⟨below, above⟩))
  rw [lines_outside_append, block, List.nil_append]
  apply lines_outside_congr
  intro n below
  rw [listed, mem_numbers_from]
  exact or_iff_right (by omega)

theorem mem_block_changed (oldLine : Int) (gone : Nat) (newLine : Int) (come : Nat) {n : Int} :
    n ∈ (blockDelta oldLine gone newLine come).added ∨
        n ∈ (blockDelta oldLine gone newLine come).modified ↔ n ∈ numbersFrom newLine come := by
  rw [or_comm, ← List.mem_append, blockDelta, List.take_append_drop]

/-! ## Accounts -/

/-- The delta accounts for every line of two texts whose first lines have the given numbers. -/
structure Accounts (oldLine newLine : Int) (old new : List Line) (delta : LineDelta) : Prop where
  added : Numbering newLine new.length delta.added
  modified : Numbering newLine new.length delta.modified
  removed : Numbering oldLine old.length delta.removed
  apart : ∀ n ∈ delta.added, n ∉ delta.modified
  counts : (new.length : Int) - delta.added.length = old.length - delta.removed.length
  /-- The removed lines and one more for each modified line are lost, and all others kept. -/
  kept : ∃ lost, Numbering oldLine old.length lost ∧ delta.removed ⊆ lost ∧
    lost.length = delta.removed.length + delta.modified.length ∧
    linesOutside (delta.added ++ delta.modified) newLine new = linesOutside lost oldLine old

section Steps

variable {oldLine newLine : Int} {old new : List Line} {delta : LineDelta}

theorem accounts_done : Accounts oldLine newLine ([] : List Line) [] {} where
  added := .nil
  modified := .nil
  removed := .nil
  apart := nofun
  counts := rfl
  kept := ⟨[], .nil, nofun, rfl, rfl⟩

theorem not_mem_before {first n : Int} {count : Nat} {numbers : List Int}
    (numbering : Numbering first count numbers) (before : n < first) : n ∉ numbers := by
  intro member
  have := numbering.within n member
  omega

theorem Accounts.keep (line : Line)
    (accounts : Accounts (oldLine + 1) (newLine + 1) old new delta) :
    Accounts oldLine newLine (line :: old) (line :: new) delta := by
  obtain ⟨added, modified, removed, apart, counts, lost, numbering, removedLost, size, same⟩ :=
    accounts
  refine ⟨added.behind_one, modified.behind_one, removed.behind_one, apart, ?_, lost,
    numbering.behind_one, removedLost, size, ?_⟩
  · simp only [List.length_cons]
    omega
  · have newKept : newLine ∉ delta.added ++ delta.modified := by
      rw [List.mem_append, not_or]
      exact ⟨not_mem_before added (by omega), not_mem_before modified (by omega)⟩
    have oldKept : oldLine ∉ lost := not_mem_before numbering (by omega)
    rw [linesOutside, linesOutside, if_neg newKept, if_neg oldKept, same]

theorem Accounts.change (gone come : List Line)
    (accounts : Accounts (oldLine + gone.length) (newLine + come.length) old new delta) :
    Accounts oldLine newLine (gone ++ old) (come ++ new)
      ((blockDelta oldLine gone.length newLine come.length).append delta) := by
  obtain ⟨added, modified, removed, apart, counts, lost, numbering, removedLost, size, same⟩ :=
    accounts
  have goneNumbers := numbers_from_numbering oldLine gone.length
  have comeNumbers := numbers_from_numbering newLine come.length
  have goneCount := length_numbers_from oldLine gone.length
  have comeCount := length_numbers_from newLine come.length
  constructor
  case added =>
    rw [List.length_append]
    exact (comeNumbers.sublist (List.drop_sublist _ _)).append added
  case modified =>
    rw [List.length_append]
    exact (comeNumbers.sublist (List.take_sublist _ _)).append modified
  case removed =>
    rw [List.length_append]
    exact (goneNumbers.sublist (List.drop_sublist _ _)).append removed
  case apart =>
    intro n member memberToo
    have ordered := comeNumbers.increasing
    rw [← List.take_append_drop (min gone.length come.length) (numbersFrom _ _)] at ordered
    rcases List.mem_append.mp member with here | later
    · rcases List.mem_append.mp memberToo with hereToo | laterToo
      · exact absurd ((List.pairwise_append.mp ordered).2.2 n hereToo n here) (Int.lt_irrefl n)
      · have := mem_numbers_from.mp (List.mem_of_mem_drop here)
        have := modified.within n laterToo
        omega
    · rcases List.mem_append.mp memberToo with hereToo | laterToo
      · have := mem_numbers_from.mp (List.mem_of_mem_take hereToo)
        have := added.within n later
        omega
      · exact apart n later laterToo
  case counts =>
    simp only [LineDelta.append, blockDelta, List.length_append, List.length_drop, goneCount,
      comeCount]
    omega
  case kept =>
    refine ⟨numbersFrom oldLine gone.length ++ lost, ?_, ?_, ?_, ?_⟩
    · rw [List.length_append]
      exact goneNumbers.append numbering
    · exact List.append_subset.mpr ⟨List.subset_append_of_subset_left _ (List.drop_subset _ _),
        List.subset_append_of_subset_right _ removedLost⟩
    · simp only [LineDelta.append, blockDelta, List.length_append, List.length_drop,
        List.length_take, goneCount, comeCount]
      omega
    · rw [lines_outside_block fun _ => List.mem_append, lines_outside_block fun n => ?_]
      · exact same
      · simp only [LineDelta.append, List.mem_append,
          ← mem_block_changed oldLine gone.length newLine come.length]
        exact or_or_or_comm

end Steps

/-! ## Deltas of scripts -/

section Scripts

variable {oldLine newLine : Int} {old new : List Line} {hunks : List Hunk} {delta : LineDelta}

theorem EditScript.accounts (script : EditScript oldLine newLine old new hunks) :
    Accounts oldLine newLine old new (gathered hunks) := by
  induction script with
  | done => exact accounts_done
  | keep line more induction => exact induction.keep line
  | change gone come more induction =>
      rw [gathered_block]
      exact induction.change gone come

/-- What is gathered from a script is in order already. -/
theorem EditScript.delta_eq (script : EditScript oldLine newLine old new hunks) :
    deltaOfHunks hunks = gathered hunks := by
  have accounts := script.accounts
  rw [gathered] at accounts
  rw [deltaOfHunks, gathered]
  simp only [LineDelta.sorted_distinct_of_increasing accounts.added.increasing,
    LineDelta.sorted_distinct_of_increasing accounts.removed.increasing,
    LineDelta.sorted_distinct_of_increasing accounts.modified.increasing]

theorem accounts_same (lines : List Line) : Accounts oldLine newLine lines lines {} :=
  (script_same lines).accounts

theorem Accounts.same_of_empty (accounts : Accounts oldLine newLine old new delta)
    (empty : delta.isEmpty = true) : old = new := by
  obtain ⟨added, removed, modified⟩ := LineDelta.is_empty_iff.mp empty
  obtain ⟨lost, -, -, size, same⟩ := accounts.kept
  rw [removed, modified] at size
  obtain rfl := List.length_eq_zero_iff.mp size
  rw [added, modified] at same
  exact (lines_outside_nil _ _).symm.trans (same.symm.trans (lines_outside_nil _ _))

end Scripts

theorem flatten_terminated_lines (text : List Char) : (terminatedLines text).flatten = text := by
  induction text with
  | nil => rfl
  | cons c rest induction =>
      rw [terminatedLines]
      split
      · rw [List.flatten_cons, induction]
        rfl
      · split
        · next none =>
            rw [none] at induction
            rw [← induction]
            rfl
        · next line lines some =>
            rw [some] at induction
            rw [← induction]
            rfl

theorem terminated_lines_injective {before after : List Char}
    (same : terminatedLines before = terminatedLines after) : before = after := by
  rw [← flatten_terminated_lines before, same, flatten_terminated_lines]

theorem delta_of_equal (patch : Patcher) (text : List Char) : delta patch text text = {} := by
  simp [delta]

theorem delta_of_different {patch : Patcher} {before after : List Char}
    (different : before ≠ after) :
    delta patch before after = deltaOfHunks (patch before after) := by
  simp [delta, different]

section Texts

variable {patch : Patcher} {before after : List Char} (valid : patch.Valid)
  (oldText : isBinary before = false) (newText : isBinary after = false)

include valid oldText newText

theorem delta_accounts :
    Accounts 1 1 (terminatedLines before) (terminatedLines after) (delta patch before after) := by
  by_cases same : before = after
  · rw [same, delta_of_equal]
    exact accounts_same _
  · have script := valid before after oldText newText
    rw [delta_of_different same, script.delta_eq]
    exact script.accounts

/-- The delta of two texts accounts for all their lines and is empty only for equal texts, whichever
edit script they are compared by; so does what the hunks of any script between them add up to. -/
theorem lines_are_accounted_for :
    Accounts 1 1 (terminatedLines before) (terminatedLines after) (delta patch before after) ∧
    ((delta patch before after).isEmpty = true ↔ before = after) ∧
    ∀ hunks, EditScript 1 1 (terminatedLines before) (terminatedLines after) hunks →
      Accounts 1 1 (terminatedLines before) (terminatedLines after) (deltaOfHunks hunks) ∧
        ((deltaOfHunks hunks).isEmpty = true → before = after) := by
  have accounts := delta_accounts valid oldText newText
  refine ⟨accounts, ⟨?empty, ?equal⟩, ?scripts⟩
  case empty =>
    intro empty
    exact terminated_lines_injective (accounts.same_of_empty empty)
  case equal =>
    rintro rfl
    rw [delta_of_equal]
    rfl
  case scripts =>
    intro hunks script
    have accounts := script.accounts
    rw [← script.delta_eq] at accounts
    exact ⟨accounts, fun empty => terminated_lines_injective (accounts.same_of_empty empty)⟩

end Texts

/-- Uneven blocks, and last lines with and without a newline. -/
theorem uneven_blocks_are_accounted_for :
    let before := "a\nb\nc\nd\ne".toList
    let after := "a\nB\nd\ne\nf\n".toList
    delta shortestPatch before after = { added := [5], removed := [3], modified := [2, 4] } ∧
      Accounts 1 1 (terminatedLines before) (terminatedLines after)
        (delta shortestPatch before after) ∧
      Accounts 1 1 (terminatedLines before) (terminatedLines after)
        (deltaOfHunks [block 1 5 1 5]) := by
  intro before after
  have whole : EditScript 1 1 (terminatedLines before) (terminatedLines after)
      [block 1 5 1 5] := .change (terminatedLines before) (terminatedLines after) .done
  obtain ⟨accounts, -, scripted⟩ :=
    lines_are_accounted_for shortest_patch_valid (show isBinary before = false by decide)
      (show isBinary after = false by decide)
  exact ⟨by decide +kernel, accounts, (scripted _ whole).1⟩

end Lines

end EditImpact
