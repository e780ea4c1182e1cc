import EditImpact.Proofs.Pattern.Running

/-!
# Repetition without fuel

A pattern hands only places ahead of its own to its continuation (`run_related`). So the fuel of a
repetition never runs out, and a repetition is one more round or an end (`run_rep`).
-/

namespace EditImpact

set_option autoImplicit false

namespace Progress

/-- `reached` is `progress` after reading some of its rest. -/
structure Ahead (progress reached : Progress) : Prop where
  grows : progress.cursor.offset ≤ reached.cursor.offset
  total : reached.cursor.offset + reached.cursor.rest.length =
    progress.cursor.offset + progress.cursor.rest.length

namespace Ahead

variable {first second third : Progress}

theorem refl (progress : Progress) : progress.Ahead progress := ⟨Nat.le_refl _, rfl⟩

theorem trans (early : first.Ahead second) (late : second.Ahead third) : first.Ahead third :=
  ⟨Nat.le_trans early.grows late.grows, late.total.trans early.total⟩

theorem char (last : Option Char) (c : Char) (rest : List Char) (offset : Nat)
    (captured : Option (List Char)) :
    Ahead ⟨⟨last, c :: rest, offset⟩, captured⟩ ⟨⟨some c, rest, offset + 1⟩, captured⟩ :=
  ⟨Nat.le_succ offset, by simp only [List.length_cons]; omega⟩

theorem shorter (ahead : first.Ahead second)
    (moved : second.cursor.offset ≠ first.cursor.offset) :
    second.cursor.rest.length < first.cursor.rest.length := by
  have grows := ahead.grows
  have total := ahead.total
  omega

end Ahead

end Progress

namespace Pattern

variable {Result Other : Type} {Rel : Result → Other → Prop}

theorem or_else_some (first second : Option Result) :
    (first <|> second).isSome = (first.isSome || second.isSome) := by
  cases first <;> rfl

theorem rel_or_else {first second : Option Result} {firstToo secondToo : Option Other}
    (one : Option.Rel Rel first firstToo) (other : Option.Rel Rel second secondToo) :
    Option.Rel Rel (first <|> second) (firstToo <|> secondToo) := by
  cases one with
  | some related => exact .some related
  | none => exact other

theorem rel_weaken {Weak : Result → Other → Prop}
    (weaker : ∀ {result other}, Rel result other → Weak result other) {first : Option Result}
    {second : Option Other} (related : Option.Rel Rel first second) :
    Option.Rel Weak first second := by
  cases related with
  | some related => exact .some (weaker related)
  | none => exact .none

theorem rel_guard (holds : Prop) [Decidable holds] {first : Option Result} {second : Option Other}
    (related : Option.Rel Rel first second) :
    Option.Rel Rel (if holds then first else none) (if holds then second else none) := by
  split
  · exact related
  · exact .none

/-- One more round or an end, in the order that is preferred. -/
def choose (greedy : Bool) (least : Nat) (again stop : Option Result) : Option Result :=
  if 0 < least then again else if greedy then again <|> stop else stop <|> again

theorem choose_related (greedy : Bool) (least : Nat) {again stop : Option Result}
    {againToo stopToo : Option Other} (one : Option.Rel Rel again againToo)
    (other : Option.Rel Rel stop stopToo) :
    Option.Rel Rel (choose greedy least again stop) (choose greedy least againToo stopToo) := by
  unfold choose
  split
  · exact one
  · split
    · exact rel_or_else one other
    · exact rel_or_else other one

theorem choose_none (greedy : Bool) (least : Nat) (stop : Option Result) :
    choose greedy least none stop = if 0 < least then none else stop := by
  unfold choose
  split
  · rfl
  · split
    · rfl
    · cases stop <;> rfl

theorem repeat_succ (greedy : Bool)
    (body : Progress → (Progress → Option Result) → Option Result) (fuel least : Nat)
    (most : Option Nat) (progress : Progress) (next : Progress → Option Result) :
    repeatWith greedy body (fuel + 1) least most progress next =
      if most = some 0 then next progress
      else choose greedy least
        (body progress fun reached =>
          if reached.cursor.offset = progress.cursor.offset then none
          else repeatWith greedy body fuel (least - 1) (most.map (· - 1)) reached next)
        (next progress) := rfl

theorem repeat_related (greedy : Bool)
    {body : Progress → (Progress → Option Result) → Option Result}
    {bodyToo : Progress → (Progress → Option Other) → Option Other}
    (bodies : ∀ progress next nextToo,
      (∀ reached, progress.Ahead reached → Option.Rel Rel (next reached) (nextToo reached)) →
        Option.Rel Rel (body progress next) (bodyToo progress nextToo))
    {next : Progress → Option Result} {nextToo : Progress → Option Other} (fuel least : Nat)
    (most : Option Nat) (progress : Progress)
    (related : ∀ reached, progress.Ahead reached → Option.Rel Rel (next reached) (nextToo reached)) :
    Option.Rel Rel (repeatWith greedy body fuel least most progress next)
      (repeatWith greedy bodyToo fuel least most progress nextToo) := by
  have here := related progress (.refl progress)
  induction fuel generalizing least most progress with
  | zero =>
      unfold repeatWith
      split
      · exact here
      · exact .none
  | succ fuel induction =>
      rw [repeat_succ, repeat_succ]
      split
      · exact here
      · refine choose_related greedy least (bodies progress _ _ fun reached ahead => ?_) here
        split
        · exact .none
        · have later (further : Progress) (more : reached.Ahead further) :=
            related further (ahead.trans more)
          exact induction _ _ reached later (later reached (.refl reached))

/-- Continuations that give related results ahead of a place give a related result there. -/
theorem run_related (pattern : Pattern) {progress : Progress} {next : Progress → Option Result}
    {nextToo : Progress → Option Other}
    (related : ∀ reached, progress.Ahead reached → Option.Rel Rel (next reached) (nextToo reached)) :
    Option.Rel Rel (pattern.run progress next) (pattern.run progress nextToo) := by
  have here := related progress (.refl progress)
  induction pattern generalizing progress next nextToo with
  | empty => exact here
  | char set =>
      obtain ⟨⟨last, rest, offset⟩, captured⟩ := progress
      cases rest with
      | nil => exact .none
      | cons c rest =>
          rw [run_char, run_char]
          split
          · exact related _ (.char last c rest offset captured)
          · exact .none
  | seq first second firstCase secondCase =>
      have inner (reached : Progress) (ahead : progress.Ahead reached) :
          Option.Rel Rel (second.run reached next) (second.run reached nextToo) :=
        secondCase (fun further more => related further (ahead.trans more)) (related reached ahead)
      exact firstCase inner (inner progress (.refl progress))
  | alt first second firstCase secondCase =>
      exact rel_or_else (firstCase related here) (secondCase related here)
  | rep greedy least most body bodyCase =>
      have bodies (reached : Progress) (more : Progress → Option Result)
          (moreToo : Progress → Option Other)
          (same : ∀ further, reached.Ahead further → Option.Rel Rel (more further) (moreToo further)) :
          Option.Rel Rel (body.run reached more) (body.run reached moreToo) :=
        bodyCase same (same reached (.refl reached))
      exact repeat_related greedy bodies _ least most progress related
  | capture body bodyCase =>
      refine bodyCase (fun reached ahead => ?_) ?_
      · exact related _ ⟨ahead.grows, ahead.total⟩
      · exact related _ ⟨Nat.le_refl _, rfl⟩
  | wordEdge => exact rel_guard _ here
  | textStart => exact rel_guard _ here
  | lineStart => exact rel_guard _ here
  | textEnd => exact rel_guard _ here
  | notBefore set =>
      simp only [run]
      split
      · exact here
      · split
        · exact .none
        · exact here
  | notAfter set =>
      simp only [run]
      split
      · exact here
      · split
        · exact .none
        · exact here

theorem rel_eq {first second : Option Result} (related : Option.Rel (· = ·) first second) :
    first = second := by
  cases related with
  | some same => rw [same]
  | none => rfl

/-- Only what a continuation says about the places ahead matters. -/
theorem run_congr (pattern : Pattern) {progress : Progress} {next nextToo : Progress → Option Result}
    (same : ∀ reached, progress.Ahead reached → next reached = nextToo reached) :
    pattern.run progress next = pattern.run progress nextToo := by
  refine rel_eq (run_related pattern fun reached ahead => ?_)
  rw [same reached ahead]
  cases nextToo reached with
  | none => exact .none
  | some result => exact .some rfl

/-- A result is what the continuation says about some place ahead. -/
theorem run_result {pattern : Pattern} {progress : Progress} {next : Progress → Option Result}
    {result : Result} (found : pattern.run progress next = some result) :
    ∃ reached, progress.Ahead reached ∧ next reached = some result := by
  have related : Option.Rel (fun result _ => ∃ reached, progress.Ahead reached ∧
      next reached = some result) (pattern.run progress next) (pattern.run progress next) :=
    run_related pattern fun reached ahead => by
      cases given : next reached with
      | none => exact .none
      | some result => exact .some ⟨reached, ahead, given⟩
  rw [found] at related
  cases related with
  | some there => exact there

/-- More fuel than there are characters left changes nothing. -/
theorem repeat_fuel (greedy : Bool) (body : Pattern) (next : Progress → Option Result)
    {fuel other : Nat} (least : Nat) (most : Option Nat) {progress : Progress}
    (enough : progress.cursor.rest.length < fuel) (enoughToo : progress.cursor.rest.length < other) :
    repeatWith greedy (fun reached more => body.run reached more) fuel least most progress next =
      repeatWith greedy (fun reached more => body.run reached more) other least most progress
        next := by
  -- a round that reads nothing is given up, so what is left gets shorter with the fuel
  induction fuel generalizing other least most progress with
  | zero => exact absurd enough (Nat.not_lt_zero _)
  | succ fuel induction =>
      obtain ⟨left, rfl⟩ := Nat.exists_eq_succ_of_ne_zero (Nat.ne_zero_of_lt enoughToo)
      rw [repeat_succ, Nat.succ_eq_add_one, repeat_succ]
      split
      · rfl
      · refine congrArg (choose greedy least · _) (run_congr body fun reached ahead => ?_)
        by_cases moved : reached.cursor.offset = progress.cursor.offset
        · rw [if_pos moved, if_pos moved]
        · have shorter := ahead.shorter moved
          rw [if_neg moved, if_neg moved]
          exact induction _ _ (by omega) (by omega)

/-- A repetition is one more round, after which it goes on from a place further ahead, or its
end. -/
theorem run_rep (greedy : Bool) (least : Nat) (most : Option Nat) (body : Pattern)
    (progress : Progress) (next : Progress → Option Result) :
    (rep greedy least most body).run progress next =
      if most = some 0 then next progress
      else choose greedy least
        (body.run progress fun reached =>
          if reached.cursor.offset ≤ progress.cursor.offset then none
          else (rep greedy (least - 1) (most.map (· - 1)) body).run reached next)
        (next progress) := by
  have unfolded : (rep greedy least most body).run progress next =
      repeatWith greedy (fun reached more => body.run reached more)
        (progress.cursor.rest.length + 1) least most progress next := rfl
  rw [unfolded, repeat_succ]
  split
  · rfl
  · refine congrArg (choose greedy least · _) (run_congr body fun reached ahead => ?_)
    by_cases moved : reached.cursor.offset = progress.cursor.offset
    · rw [if_pos moved, if_pos (Nat.le_of_eq moved)]
    · have shorter := ahead.shorter moved
      have grows := ahead.grows
      rw [if_neg moved, if_neg (by omega)]
      exact repeat_fuel greedy body next _ _ (by omega) (by omega)

/-- A repetition that may be empty accepts what its continuation accepts. -/
theorem rep_accepts (greedy : Bool) (most : Option Nat) (body : Pattern) {progress : Progress}
    {next : Progress → Option Result} (accepted : (next progress).isSome = true) :
    ((rep greedy 0 most body).run progress next).isSome = true := by
  rw [run_rep]
  split
  · exact accepted
  · rw [choose, if_neg (Nat.lt_irrefl 0)]
    split <;> simp [accepted]

theorem run_rep_failing {greedy : Bool} {least : Nat} {most : Option Nat} {body : Pattern}
    {progress : Progress}
    (fails : ∀ more : Progress → Option Result, body.run progress more = none)
    (next : Progress → Option Result) :
    (rep greedy least most body).run progress next =
      if 0 < least && most != some 0 then none else next progress := by
  rw [run_rep]
  by_cases ended : most = some 0
  · simp [ended]
  · have going : (most != some 0) = true := bne_iff_ne.mpr ended
    rw [if_neg ended, fails, choose_none, going, Bool.and_true]
    simp only [decide_eq_true_eq]

section Loops

variable (greedy : Bool) (least : Nat) (set : CharSet) (last : Option Char) (offset : Nat)
  (captured : Option (List Char)) (next : Progress → Option Result)

theorem run_loop_nil :
    (rep greedy least none (char set)).run ⟨⟨last, [], offset⟩, captured⟩ next =
      choose greedy least none (next ⟨⟨last, [], offset⟩, captured⟩) := by
  rw [run_rep]
  rfl

theorem run_loop_cons (c : Char) (rest : List Char) :
    (rep greedy least none (char set)).run ⟨⟨last, c :: rest, offset⟩, captured⟩ next =
      choose greedy least
        (if set.contains c then
          (rep greedy (least - 1) none (char set)).run ⟨⟨some c, rest, offset + 1⟩, captured⟩ next
        else none)
        (next ⟨⟨last, c :: rest, offset⟩, captured⟩) := by
  rw [run_rep, if_neg (by simp), run_char]
  simp only [Nat.not_succ_le_self, if_false, Option.map_none]

end Loops

end Pattern

end EditImpact
