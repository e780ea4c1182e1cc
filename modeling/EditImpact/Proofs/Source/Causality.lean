import EditImpact.Proofs.Source.Masking

/-!
# Later text does not change earlier masking

The reader of comments and strings looks at most two characters ahead, so two texts that agree on
their first `count + 2` characters agree on the first `count` masked ones (`mask_take`).
-/

namespace EditImpact.Source

set_option autoImplicit false

/-- A masked text, read from the given place on. -/
def maskFrom (dialect : Dialect) (hideStrings : Bool) (mode : Mode) (text : List Char) :
    List Char :=
  List.zipWith (paint hideStrings) (covers dialect mode text) text

theorem mask_from_cons (dialect : Dialect) (hideStrings : Bool) (mode : Mode) (c : Char)
    (rest : List Char) :
    maskFrom dialect hideStrings mode (c :: rest) =
      paint hideStrings (step dialect mode c rest).1 c ::
        maskFrom dialect hideStrings (step dialect mode c rest).2 rest := rfl

theorem mask_eq (language : Option Language) (hideStrings : Bool) (text : List Char) :
    mask language hideStrings text = maskFrom (Dialect.of language) hideStrings .code text := rfl

section Beginnings

variable {text other : List Char}

theorem take_of_longer {count more : Nat} (same : text.take more = other.take more)
    (fewer : count ≤ more) : text.take count = other.take count := by
  have shorter := congrArg (List.take count) same
  rwa [List.take_take, List.take_take, Nat.min_eq_left fewer] at shorter

theorem begins_with_head {c : Char} {count : Nat}
    (same : (c :: text).take (count + 1) = other.take (count + 1)) :
    ∃ rest, other = c :: rest ∧ text.take count = rest.take count := by
  cases other with
  | nil => cases same
  | cons d rest =>
      rw [List.take_succ_cons, List.take_succ_cons, List.cons.injEq] at same
      obtain ⟨rfl, later⟩ := same
      exact ⟨rest, rfl, later⟩

theorem head_ahead {count : Nat} (same : text.take (count + 1) = other.take (count + 1)) :
    text.head? = other.head? := by
  have heads := congrArg List.head? same
  rwa [List.head?_take, List.head?_take, if_neg count.succ_ne_zero,
    if_neg count.succ_ne_zero] at heads

end Beginnings

section Ahead

variable {rest other : List Char} (same : rest.take 2 = other.take 2)

include same

theorem pair_ahead (first second : Char) :
    [first, second].isPrefixOf rest = [first, second].isPrefixOf other := by
  rw [Bool.eq_iff_iff, List.isPrefixOf_iff_prefix, List.isPrefixOf_iff_prefix,
    List.prefix_iff_eq_take, List.prefix_iff_eq_take]
  change [first, second] = rest.take 2 ↔ [first, second] = other.take 2
  rw [same]

theorem step_ahead (dialect : Dialect) (mode : Mode) (c : Char) :
    step dialect mode c rest = step dialect mode c other := by
  cases mode with
  | code => rw [step_code, step_code, opensLine, opensLine, head_ahead same, pair_ahead same]
  | block => simp only [step, head_ahead same]
  | quoted quote long => simp only [step, pair_ahead same]
  | lineComment => rfl
  | blockOpen => rfl
  | blockClose => rfl
  | opening quote left => rfl
  | escaped quote long => rfl
  | closing left => rfl

end Ahead

theorem mask_from_take {dialect : Dialect} {hideStrings : Bool} {mode : Mode} {count : Nat}
    {text other : List Char} (same : text.take (count + 2) = other.take (count + 2)) :
    (maskFrom dialect hideStrings mode text).take count =
      (maskFrom dialect hideStrings mode other).take count := by
  induction count generalizing mode text other with
  | zero => rfl
  | succ count induction =>
      cases text with
      | nil =>
          cases other with
          | nil => rfl
          | cons d other => cases same
      | cons c text =>
          rw [Nat.add_right_comm] at same
          obtain ⟨rest, rfl, later⟩ := begins_with_head same
          have near : text.take 2 = rest.take 2 := take_of_longer later (by omega)
          rw [mask_from_cons, mask_from_cons, List.take_succ_cons, List.take_succ_cons,
            step_ahead near, induction later]

theorem mask_take (language : Option Language) (hideStrings : Bool) {count : Nat}
    {text other : List Char} (same : text.take (count + 2) = other.take (count + 2)) :
    (mask language hideStrings text).take count = (mask language hideStrings other).take count :=
  mask_from_take same

/-- But for its last two characters a text is masked alike whatever follows it. -/
theorem mask_append_take (language : Option Language) (hideStrings : Bool) (text more : List Char) :
    (mask language hideStrings (text ++ more)).take (text.length - 2) =
      (mask language hideStrings text).take (text.length - 2) := by
  by_cases short : text.length < 2
  · have none : text.length - 2 = 0 := by omega
    rw [none, List.take_zero, List.take_zero]
  · apply mask_take
    rw [Nat.sub_add_cancel (by omega), List.take_left, List.take_length]

end EditImpact.Source
