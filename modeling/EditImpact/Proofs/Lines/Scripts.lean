import EditImpact.Lines.Shortest
import EditImpact.Proofs.Lines.Numbers

/-!
# Edit scripts

An edit script walks through two texts side by side: common lines are kept, and each hunk takes a
block of lines out of the old text and puts a block of lines in their place. Marks that leave the
same lines unmarked on both sides spell out such a script (`script_of_marks`), so a short edit does
(`shortest_patch_valid`).
-/

namespace EditImpact.Lines

set_option autoImplicit false

/-- A block of removed lines, then a block of added lines. -/
def block (oldLine : Int) (gone : Nat) (newLine : Int) (come : Nat) : Hunk :=
  (numbersFrom oldLine gone).map .removed ++ (numbersFrom newLine come).map .added

@[simp] theorem block_nothing (oldLine newLine : Int) : block oldLine 0 newLine 0 = [] := rfl

variable {Line : Type}

/-- Hunks that lead from old lines to new lines. The numbers are those of the next line on either
side; what stands between two hunks is the same on both sides. -/
inductive EditScript : Int → Int → List Line → List Line → List Hunk → Prop where
  | done {oldLine newLine : Int} : EditScript oldLine newLine [] [] []
  | keep {oldLine newLine : Int} {old new : List Line} {hunks : List Hunk} (line : Line)
      (more : EditScript (oldLine + 1) (newLine + 1) old new hunks) :
      EditScript oldLine newLine (line :: old) (line :: new) hunks
  | change {oldLine newLine : Int} {old new : List Line} {hunks : List Hunk}
      (gone come : List Line)
      (more : EditScript (oldLine + gone.length) (newLine + come.length) old new hunks) :
      EditScript oldLine newLine (gone ++ old) (come ++ new)
        (block oldLine gone.length newLine come.length :: hunks)

theorem block_is_empty {oldLine newLine : Int} {gone come : List Line}
    (empty : (block oldLine gone.length newLine come.length).isEmpty = true) :
    gone = [] ∧ come = [] := by
  cases gone with
  | cons line gone => cases empty
  | nil =>
      cases come with
      | cons line come => cases empty
      | nil => exact ⟨rfl, rfl⟩

/-- Hunks without lines can be left out. -/
theorem EditScript.without_empty {oldLine newLine : Int} {old new : List Line} {hunks : List Hunk}
    (script : EditScript oldLine newLine old new hunks) :
    EditScript oldLine newLine old new (hunks.filter (!·.isEmpty)) := by
  induction script with
  | done => exact .done
  | keep line more induction => exact .keep line induction
  | @change oldLine newLine old new hunks gone come more induction =>
      rw [List.filter_cons]
      cases empty : (block oldLine gone.length newLine come.length).isEmpty with
      | false => exact .change gone come induction
      | true =>
          obtain ⟨rfl, rfl⟩ := block_is_empty empty
          simpa using induction

/-- Between equal texts there is nothing to change. -/
theorem script_same {oldLine newLine : Int} (lines : List Line) :
    EditScript oldLine newLine lines lines [] := by
  induction lines generalizing oldLine newLine with
  | nil => exact .done
  | cons line lines induction => exact .keep line induction

/-! ## Marks -/

section Reading

variable {fuel : Nat} {oldLine newLine : Int} {olds news : List Bool} {current : Hunk}

theorem hunks_from_removed : hunksFrom (fuel + 1) oldLine newLine (true :: olds) news current =
    hunksFrom fuel (oldLine + 1) newLine olds news (current ++ [.removed oldLine]) := rfl

theorem hunks_from_added (unmarked : olds.head? ≠ some true) :
    hunksFrom (fuel + 1) oldLine newLine olds (true :: news) current =
      hunksFrom fuel oldLine (newLine + 1) olds news (current ++ [.added newLine]) := by
  match olds with
  | [] => rfl
  | false :: olds => rfl
  | true :: olds => exact absurd rfl unmarked

theorem hunks_from_kept :
    hunksFrom (fuel + 1) oldLine newLine (false :: olds) (false :: news) current =
      current :: hunksFrom fuel (oldLine + 1) (newLine + 1) olds news [] := rfl

theorem hunks_from_end : hunksFrom (fuel + 1) oldLine newLine [] [] current = [current] := rfl

end Reading

theorem add_length_cons (start : Int) (line : Line) (lines : List Line) :
    start + ((line :: lines).length : Int) = start + 1 + lines.length := by
  rw [List.length_cons]
  omega

/-- The hunk under construction is completed by a block, and a script goes on behind it. A block
with removed lines only stands where an old line is marked. -/
theorem hunks_from_script {fuel : Nat} (oldLine newLine : Int) {olds news : List Bool}
    {old new : List Line} (current : Hunk) (oldSize : olds.length = old.length)
    (newSize : news.length = new.length) (enough : olds.length + news.length < fuel)
    (same : unmarked old olds = unmarked new news) :
    ∃ gone come oldRest newRest later, old = gone ++ oldRest ∧ new = come ++ newRest ∧
      hunksFrom fuel oldLine newLine olds news current =
        (current ++ block oldLine gone.length newLine come.length) :: later ∧
      EditScript (oldLine + gone.length) (newLine + come.length) oldRest newRest later ∧
      (olds.head? ≠ some true → gone = []) := by
  induction fuel generalizing oldLine newLine olds news old new current with
  | zero => omega
  | succ fuel induction =>
      by_cases removed : olds.head? = some true
      · obtain ⟨olds, rfl⟩ := List.head?_eq_some_iff.mp removed
        obtain ⟨line, old, rfl⟩ := List.exists_cons_of_length_eq_add_one oldSize.symm
        rw [List.length_cons] at enough
        obtain ⟨gone, come, oldRest, newRest, later, rfl, rfl, hunks, script, -⟩ :=
          induction (oldLine + 1) newLine (current ++ [.removed oldLine])
            (Nat.succ.inj oldSize) newSize (by omega) same
        refine ⟨line :: gone, come, oldRest, newRest, later, rfl, rfl, ?_, ?_, nofun⟩
        · rw [hunks_from_removed, hunks, List.append_assoc]
          rfl
        · rwa [add_length_cons]
      by_cases added : news.head? = some true
      · obtain ⟨news, rfl⟩ := List.head?_eq_some_iff.mp added
        obtain ⟨line, new, rfl⟩ := List.exists_cons_of_length_eq_add_one newSize.symm
        rw [List.length_cons] at enough
        obtain ⟨gone, come, oldRest, newRest, later, rfl, rfl, hunks, script, none⟩ :=
          induction oldLine (newLine + 1) (current ++ [.added newLine])
            oldSize (Nat.succ.inj newSize) (by omega) same
        obtain rfl := none removed
        refine ⟨[], line :: come, oldRest, newRest, later, rfl, rfl, ?_, ?_, fun _ => rfl⟩
        · rw [hunks_from_added removed, hunks, List.append_assoc]
          rfl
        · rwa [add_length_cons]
      match olds, old, news, new with
      | false :: olds, left :: old, false :: news, right :: new =>
          obtain ⟨rfl, rest⟩ := List.cons.inj same
          simp only [List.length_cons] at enough
          obtain ⟨gone, come, oldRest, newRest, later, rfl, rfl, hunks, script, -⟩ :=
            induction (oldLine + 1) (newLine + 1) []
              (Nat.succ.inj oldSize) (Nat.succ.inj newSize) (by omega) rest
          have here := EditScript.keep left (.change gone come script)
          refine ⟨[], [], _, _, _, rfl, rfl, ?_, by simpa using here, fun _ => rfl⟩
          rw [hunks_from_kept, hunks]
          simp
      | [], [], false :: news, right :: new => cases same
      | false :: olds, left :: old, [], [] => cases same
      | [], [], [], [] =>
          refine ⟨[], [], [], [], [], rfl, rfl, ?_, .done, fun _ => rfl⟩
          rw [hunks_from_end]
          simp

/-- Marks that leave the same lines unmarked on both sides are an edit script. -/
theorem script_of_marks {olds news : List Bool} {old new : List Line}
    (oldSize : olds.length = old.length) (newSize : news.length = new.length)
    (same : unmarked old olds = unmarked new news) :
    EditScript 1 1 old new (hunksOf olds news) := by
  obtain ⟨gone, come, oldRest, newRest, later, rfl, rfl, hunks, script, -⟩ :=
    hunks_from_script 1 1 [] oldSize newSize (Nat.lt_succ_self _) same
  rw [hunksOf, hunks]
  exact (EditScript.change gone come script).without_empty

theorem unmarked_all {Item : Type} (lines : List Line) (items : List Item)
    (sizes : items.length = lines.length) : unmarked lines (items.map fun _ => true) = [] := by
  induction lines generalizing items with
  | nil => rfl
  | cons line lines induction =>
      obtain ⟨item, items, rfl⟩ := List.exists_cons_of_length_eq_add_one sizes
      exact induction items (Nat.succ.inj sizes)

/-- Marks that do not pass the check are given up for marks on every line. -/
theorem edit_marks_agree (old new : List (List Char)) :
    (editMarks old new).1.length = old.length ∧ (editMarks old new).2.length = new.length ∧
      unmarked old (editMarks old new).1 = unmarked new (editMarks old new).2 := by
  unfold editMarks
  generalize shortestMarks old new = sides
  obtain ⟨oldSide, newSide⟩ := sides
  dsimp only
  split
  · next passed =>
      simp only [Bool.and_eq_true, beq_iff_eq] at passed
      exact ⟨passed.1.1, passed.1.2, passed.2⟩
  · refine ⟨List.length_map _, List.length_map _, ?_⟩
    rw [unmarked_all old old rfl, unmarked_all new new rfl]

theorem edit_marks_script (old new : List (List Char)) :
    EditScript 1 1 old new (hunksOf (editMarks old new).1 (editMarks old new).2) := by
  obtain ⟨oldSize, newSize, same⟩ := edit_marks_agree old new
  exact script_of_marks oldSize newSize same

/-- All that is relied on of a patch: between texts that are not binary it is an edit script. -/
def Patcher.Valid (patch : Patcher) : Prop :=
  ∀ before after, isBinary before = false → isBinary after = false →
    EditScript 1 1 (terminatedLines before) (terminatedLines after) (patch before after)

theorem shortest_patch_valid : Patcher.Valid shortestPatch := by
  intro before after oldText newText
  simp only [shortestPatch, oldText, newText, Bool.or_self, Bool.false_eq_true, if_false]
  exact edit_marks_script (terminatedLines before) (terminatedLines after)

end EditImpact.Lines
