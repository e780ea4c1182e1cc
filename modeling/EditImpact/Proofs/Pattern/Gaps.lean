import EditImpact.Proofs.Pattern.Repeating
import EditImpact.Proofs.Source.Gaps

/-!
# Patterns across a gap

A pattern that reads blanks only in runs of any length matches the narrow and the wide text of a gap
at the same places. What decides is how the rest of a pattern behaves between the two blanks of the
wide text, a place that the narrow text does not have: its mood. `tame` computes the mood of a
pattern from that of its continuation, and `run_agree` shows that tame patterns agree.
-/

namespace EditImpact

open Source

set_option autoImplicit false

namespace Source.Gap

/-- The place between the blanks of the wide text. -/
def mid (gap : Gap) : Cursor := ⟨some gap.added, gap.blank :: gap.after, gap.before.length + 1⟩

/-- The place behind the blanks of the wide text. -/
def beyond (gap : Gap) : Cursor := ⟨some gap.blank, gap.after, gap.before.length + 2⟩

end Source.Gap

/-- Places of the narrow and of the wide text that belong together. -/
inductive Aligned (gap : Gap) : Cursor → Cursor → Prop where
  | ahead (last : Option Char) {own : List Char} {offset : Nat}
      (place : offset + own.length = gap.before.length) (suffix : own <:+ gap.before) :
      Aligned gap ⟨last, own ++ gap.blank :: gap.after, offset⟩
        ⟨last, own ++ gap.added :: gap.blank :: gap.after, offset⟩
  | behind (last : Option Char) {rest : List Char} {offset : Nat}
      (place : offset + rest.length = gap.before.length + 1 + gap.after.length)
      (passed : gap.before.length < offset) :
      Aligned gap ⟨last, rest, offset⟩ ⟨last, rest, offset + 1⟩

namespace Aligned

variable {gap : Gap} {cursor wide other otherWide : Cursor}

theorem beyond (gap : Gap) :
    Aligned gap ⟨some gap.blank, gap.after, gap.before.length + 1⟩ gap.beyond :=
  .behind _ rfl (Nat.lt_succ_self _)

theorem at_gap (gap : Gap) (last : Option Char) :
    Aligned gap ⟨last, gap.blank :: gap.after, gap.before.length⟩
      ⟨last, gap.added :: gap.blank :: gap.after, gap.before.length⟩ :=
  @ahead gap last [] gap.before.length rfl List.nil_suffix

theorem total (aligned : Aligned gap cursor wide) :
    cursor.offset + cursor.rest.length = gap.before.length + 1 + gap.after.length := by
  cases aligned with
  | ahead last place suffix =>
      simp only [List.length_append, List.length_cons]
      omega
  | behind last place passed => exact place

/-- Aligned places are at the end, or read the same character, or stand in front of the gap. -/
theorem reads {motive : ∀ cursor wide, Aligned gap cursor wide → Prop}
    (ended : ∀ last offset (here : Aligned gap ⟨last, [], offset⟩ ⟨last, [], offset + 1⟩),
      motive _ _ here)
    (char : ∀ {last c rest restWide offset offsetWide}
      (here : Aligned gap ⟨last, c :: rest, offset⟩ ⟨last, c :: restWide, offsetWide⟩)
      (later : Aligned gap ⟨some c, rest, offset + 1⟩ ⟨some c, restWide, offsetWide + 1⟩),
      motive _ _ later → motive _ _ here)
    (blanks : ∀ last, motive _ _ (beyond gap) → motive _ _ (at_gap gap last))
    {cursor wide : Cursor} (aligned : Aligned gap cursor wide) : motive cursor wide aligned := by
  have behind {last : Option Char} {rest : List Char} {offset : Nat}
      (here : Aligned gap ⟨last, rest, offset⟩ ⟨last, rest, offset + 1⟩)
      (passed : gap.before.length < offset) : motive _ _ here := by
    induction rest generalizing last offset with
    | nil => exact ended last offset here
    | cons c rest induction =>
        have place := here.total
        have later : Aligned gap ⟨some c, rest, offset + 1⟩ ⟨some c, rest, offset + 1 + 1⟩ := by
          refine .behind _ ?_ (by omega)
          simp only [List.length_cons] at place
          omega
        exact char here later (induction later (by omega))
  cases aligned with
  | behind last place passed => exact behind _ passed
  | @ahead last own offset place suffix =>
      induction own generalizing last offset with
      | nil =>
          obtain rfl : offset = gap.before.length := place
          exact blanks last (behind _ (Nat.lt_succ_self _))
      | cons c own induction =>
          rw [List.length_cons] at place
          have suffixNext := (List.suffix_cons c own).trans suffix
          exact char _ (.ahead _ (by omega) suffixNext) (induction _ (by omega) suffixNext)

theorem offset_eq (aligned : Aligned gap cursor wide) :
    wide.offset = gap.shift cursor.offset := by
  cases aligned with
  | @ahead last own offset place suffix =>
      have within : offset ≤ gap.before.length := by omega
      exact (if_pos within).symm
  | behind last place passed =>
      exact (if_neg (Nat.not_le_of_lt passed)).symm

theorem offset_le_iff (aligned : Aligned gap cursor wide) (too : Aligned gap other otherWide) :
    otherWide.offset ≤ wide.offset ↔ other.offset ≤ cursor.offset := by
  rw [aligned.offset_eq, too.offset_eq, Gap.shift, Gap.shift, shiftAt, shiftAt]
  split <;> split <;> omega

/-- The texts between two places are alike. -/
theorem between (aligned : Aligned gap cursor wide) (too : Aligned gap other otherWide) :
    Alike (cursor.rest.take (other.offset - cursor.offset))
      (wide.rest.take (otherWide.offset - wide.offset)) := by
  cases aligned with
  | @ahead last own offset place suffix =>
      cases too with
      | ahead last place suffix =>
          simp only
          rw [List.take_append_of_le_length (by omega), List.take_append_of_le_length (by omega)]
          exact .same _
      | @behind last rest offsetToo place passed =>
          have part := take_alike ⟨own, gap.added, gap.blank, gap.after, gap.loose,
            gap.free.suffix suffix⟩ (offsetToo - offset)
          rw [Gap.shift, shiftAt, if_neg (by simp only; omega)] at part
          have more : offsetToo + 1 - offset = offsetToo - offset + 1 := by omega
          simp only [more]
          exact part
  | @behind last rest offset place passed =>
      cases too with
      | @ahead last own offsetToo place suffix =>
          have none : offsetToo - offset = 0 := by omega
          have noneWide : offsetToo - (offset + 1) = 0 := by omega
          simp only [none, noneWide, List.take_zero]
          exact .same _
      | behind last place passed =>
          simp only [Nat.add_sub_add_right]
          exact .same _

theorem last_eq (aligned : Aligned gap cursor wide) : cursor.last = wide.last := by
  cases aligned <;> rfl

theorem next_is_word (aligned : Aligned gap cursor wide) :
    Pattern.nextIsWord cursor = Pattern.nextIsWord wide := by
  induction aligned using Aligned.reads with
  | ended last offset here => rfl
  | char here later => rfl
  | blanks last =>
      have blank : ∀ c ∈ gapBlanks, Text.isWord c = false := by decide
      exact (blank gap.blank gap.loose.blank_mem).trans (blank gap.added gap.loose.added_mem).symm

end Aligned

namespace Pattern

variable {Result Other : Type} {Rel : Result → Other → Prop} {gap : Gap}

/-- The continuations give related results at aligned places with alike captured texts. -/
def Agree (gap : Gap) (Rel : Result → Other → Prop) (next : Progress → Option Result)
    (wide : Progress → Option Other) : Prop :=
  ∀ {cursor cursorWide captured capturedWide}, Aligned gap cursor cursorWide →
    OptionAlike captured capturedWide →
      Option.Rel Rel (next ⟨cursor, captured⟩) (wide ⟨cursorWide, capturedWide⟩)

/-- How a continuation behaves between the blanks of the wide text. -/
inductive Mood where
  /-- It fails there. -/
  | refuses
  /-- It is quiet, and refuses in front of the end of a line. -/
  | settled
  /-- If it succeeds there then also behind the blanks. -/
  | quiet
  | loud
  deriving DecidableEq, Repr

def Refuses (gap : Gap) (next : Progress → Option Result) : Prop :=
  ∀ captured, next ⟨gap.mid, captured⟩ = none

def Quiet (gap : Gap) (next : Progress → Option Result) : Prop :=
  ∀ captured, (next ⟨gap.mid, captured⟩).isSome = true → (next ⟨gap.beyond, captured⟩).isSome = true

theorem Refuses.quiet {next : Progress → Option Result} (refuses : Refuses gap next) :
    Quiet gap next := by
  intro captured accepted
  rw [refuses captured] at accepted
  cases accepted

namespace Mood

def Holds (gap : Gap) (next : Progress → Option Result) : Mood → Prop
  | refuses => Refuses gap next
  | settled => Quiet gap next ∧ (gap.blank = '\n' → Refuses gap next)
  | quiet => Quiet gap next
  | loud => True

def rank : Mood → Nat
  | refuses => 0
  | settled => 1
  | quiet => 2
  | loud => 3

/-- The louder of two moods. -/
def max (first second : Mood) : Mood := if first.rank ≤ second.rank then second else first

theorem Holds.louder {next : Progress → Option Result} {mood other : Mood}
    (holds : mood.Holds gap next) (louder : mood.rank ≤ other.rank) : other.Holds gap next := by
  cases mood with
  | refuses =>
      have refuses : Refuses gap next := holds
      cases other with
      | refuses => exact refuses
      | settled => exact ⟨refuses.quiet, fun _ => refuses⟩
      | quiet => exact refuses.quiet
      | loud => trivial
  | settled =>
      cases other with
      | refuses => cases louder
      | settled => exact holds
      | quiet => exact holds.1
      | loud => trivial
  | quiet =>
      cases other with
      | refuses => cases louder
      | settled => exact absurd louder (by decide)
      | quiet => exact holds
      | loud => trivial
  | loud =>
      cases other with
      | refuses => cases louder
      | settled => exact absurd louder (by decide)
      | quiet => exact absurd louder (by decide)
      | loud => trivial

theorem rank_le_max (first second : Mood) :
    first.rank ≤ (first.max second).rank ∧ second.rank ≤ (first.max second).rank := by
  unfold max
  split <;> omega

theorem Holds.or_else {next more : Progress → Option Result} {mood : Mood}
    (first : mood.Holds gap next) (second : mood.Holds gap more) :
    mood.Holds gap fun progress => next progress <|> more progress := by
  have refuse (first : Refuses gap next) (second : Refuses gap more) :
      Refuses gap fun progress => next progress <|> more progress := by
    intro captured
    simp only [first captured, second captured]
    rfl
  have hush (first : Quiet gap next) (second : Quiet gap more) :
      Quiet gap fun progress => next progress <|> more progress := by
    intro captured accepted
    rw [or_else_some, Bool.or_eq_true] at accepted ⊢
    exact accepted.imp (first captured) (second captured)
  cases mood with
  | refuses => exact refuse first second
  | settled => exact ⟨hush first.1 second.1, fun line => refuse (first.2 line) (second.2 line)⟩
  | quiet => exact hush first second
  | loud => trivial

/-- What a repetition of a refusing part, or a gate, keeps of its continuation. -/
theorem Holds.mono {next more : Progress → Option Result}
    (refusing : ∀ captured, next ⟨gap.mid, captured⟩ = none → more ⟨gap.mid, captured⟩ = none)
    (accepting : ∀ captured, (next ⟨gap.beyond, captured⟩).isSome = true →
      (next ⟨gap.mid, captured⟩).isSome = true → (more ⟨gap.mid, captured⟩).isSome = true →
        (more ⟨gap.beyond, captured⟩).isSome = true)
    {mood : Mood} (holds : mood.Holds gap next) : mood.Holds gap more := by
  have refuse (refuses : Refuses gap next) : Refuses gap more := fun captured =>
    refusing captured (refuses captured)
  have hush (quiet : Quiet gap next) : Quiet gap more := by
    intro captured accepted
    cases given : (next ⟨gap.mid, captured⟩).isSome with
    | true => exact accepting captured (quiet captured given) given accepted
    | false =>
        rw [refusing captured (Option.not_isSome_iff_eq_none.mp (by rw [given]; simp))] at accepted
        cases accepted
  cases mood with
  | refuses => exact refuse holds
  | settled => exact ⟨hush holds.1, fun line => refuse (holds.2 line)⟩
  | quiet => exact hush holds
  | loud => trivial

end Mood

section Tame

/-- No blank of a gap is in the set. -/
def avoidsBlanks (set : CharSet) : Bool := gapBlanks.all fun c => !set.contains c

/-- Every blank of a gap is in the set. -/
def takesBlanks (set : CharSet) : Bool := gapBlanks.all set.contains

/-- Of the blanks of a gap those within a line are in the set. -/
def takesSpaces (set : CharSet) : Bool := set.contains ' ' && set.contains '\t' && !set.contains '\n'

/-- Whether a pattern fails between two blanks, whatever follows it. -/
def refuses : Pattern → Bool
  | char set => avoidsBlanks set
  | seq first _ => refuses first
  | alt first second => refuses first && refuses second
  | rep _ least most body => 0 < least && most != some 0 && refuses body
  | capture body => refuses body
  | wordEdge => true
  | _ => false

/-- For a run of characters of a set that holds blanks: the loudest mood that its continuation may
have, and the mood of a run that may be empty. -/
def loopRule (greedy : Bool) (set : CharSet) : Option (Mood × Mood) :=
  if takesBlanks set then some (if greedy then .quiet else .refuses, .quiet)
  else if takesSpaces set && greedy then some (.settled, .settled)
  else none

/-- The mood of such a run; it is tame if one more blank always fits. -/
def loopMood (greedy : Bool) (least : Nat) (most : Option Nat) (set : CharSet) (mood : Mood) :
    Option Mood :=
  if most = none ∧ least ≤ 1 then
    (loopRule greedy set).bind fun (needed, own) =>
      if mood.rank ≤ needed.rank then some (if least = 0 then own else .loud) else none
  else none

/-- The set of a single character that may be a blank. -/
def blankSet? : Pattern → Option CharSet
  | char set => if avoidsBlanks set then none else some set
  | _ => none

/-- The mood of a pattern in front of a continuation of the given mood; none if the pattern may tell
one blank from two. -/
def tame : Pattern → Mood → Option Mood
  | empty, mood => some mood
  | char set, _ => if avoidsBlanks set then some .refuses else none
  | seq first second, mood => (tame second mood).bind (tame first)
  | alt first second, mood =>
    (tame first mood).bind fun one => (tame second mood).map fun other => one.max other
  | rep greedy least most body, mood =>
    match blankSet? body with
    | some set => loopMood greedy least most set mood
    | none =>
      if refuses body then
        (tame body mood).map fun _ => if 0 < least && most != some 0 then .refuses else mood
      else (tame body .loud).map fun _ => .loud
  | capture body, mood =>
    (tame body (if mood = .refuses then .refuses else .loud)).map fun own =>
      if own = .refuses then .refuses else .loud
  | wordEdge, _ => some .refuses
  | lineStart, mood => some (if mood.rank ≤ Mood.settled.rank then .refuses else .loud)
  | _, _ => none

theorem avoids_blanks_iff {set : CharSet} :
    avoidsBlanks set = true ↔ ∀ c ∈ gapBlanks, set.contains c = false := by
  simp [avoidsBlanks]

theorem takes_blanks_iff {set : CharSet} :
    takesBlanks set = true ↔ ∀ c ∈ gapBlanks, set.contains c = true := by
  simp [takesBlanks]

theorem blank_set_eq_some {pattern : Pattern} {set : CharSet}
    (found : blankSet? pattern = some set) : pattern = char set := by
  cases pattern with
  | char own =>
      simp only [blankSet?, Option.ite_none_left_eq_some, Option.some.injEq] at found
      rw [found.2]
  | _ => cases found

end Tame

section Mid

theorem run_refuses {pattern : Pattern} (refusing : refuses pattern = true)
    (captured : Option (List Char)) (next : Progress → Option Result) :
    pattern.run ⟨gap.mid, captured⟩ next = none := by
  induction pattern generalizing next with
  | char set =>
      have absent := avoids_blanks_iff.mp refusing gap.blank gap.loose.blank_mem
      rw [Gap.mid, run_char, absent]
      rfl
  | seq first second firstCase => exact firstCase refusing _
  | alt first second firstCase secondCase =>
      simp only [refuses, Bool.and_eq_true] at refusing
      simp only [run, firstCase refusing.1, secondCase refusing.2]
      rfl
  | rep greedy least most body bodyCase =>
      rw [refuses, Bool.and_eq_true] at refusing
      rw [run_rep_failing (bodyCase refusing.2), refusing.1]
      rfl
  | capture body bodyCase => exact bodyCase refusing _
  | wordEdge =>
      have blank : ∀ c ∈ gapBlanks, Text.isWord c = false := by decide
      have last : lastIsWord gap.mid = false := blank gap.added gap.loose.added_mem
      have next : nextIsWord gap.mid = false := blank gap.blank gap.loose.blank_mem
      simp only [run, last, next, bne_self_eq_false, Bool.false_eq_true, if_false]
  | empty => cases refusing
  | textStart => cases refusing
  | lineStart => cases refusing
  | textEnd => cases refusing
  | notBefore set => cases refusing
  | notAfter set => cases refusing

end Mid

section Loops

/-- What a run of characters needs of its continuation to pass over a gap. -/
def Passes (gap : Gap) (greedy : Bool) (set : CharSet) (next : Progress → Option Result) : Prop :=
  (set.contains gap.added = true ∧ set.contains gap.blank = true ∧
      if greedy then Quiet gap next else Refuses gap next) ∨
    (set.contains gap.blank = false ∧ Refuses gap next)

variable {greedy : Bool} {set : CharSet}

/-- Between the blanks, a run that reads them is a run from behind them. -/
theorem loop_mid {next : Progress → Option Result} (contains : set.contains gap.blank = true)
    (calm : if greedy then Quiet gap next else Refuses gap next) (captured : Option (List Char)) :
    (rep greedy 0 none (char set)).run ⟨gap.mid, captured⟩ next =
      (rep greedy 0 none (char set)).run ⟨gap.beyond, captured⟩ next := by
  have step : (rep greedy 0 none (char set)).run ⟨gap.mid, captured⟩ next =
      choose greedy 0 ((rep greedy 0 none (char set)).run ⟨gap.beyond, captured⟩ next)
        (next ⟨gap.mid, captured⟩) := by
    rw [Gap.mid, run_loop_cons, contains, if_pos rfl]
    rfl
  rw [step]
  cases given : next ⟨gap.mid, captured⟩ with
  | none =>
      cases greedy with
      | true => cases (rep true 0 none (char set)).run ⟨gap.beyond, captured⟩ next <;> rfl
      | false => rfl
  | some result =>
      cases greedy with
      | false =>
          have refuses : Refuses gap next := calm
          rw [refuses captured] at given
          cases given
      | true =>
          have quiet : Quiet gap next := calm
          have accepted := rep_accepts true none (char set) (quiet captured (by rw [given]; rfl))
          obtain ⟨reached, found⟩ := Option.isSome_iff_exists.mp accepted
          rw [found]
          rfl

theorem loop_mid_none {next : Progress → Option Result} (absent : set.contains gap.blank = false)
    (refuses : Refuses gap next) (captured : Option (List Char)) :
    (rep greedy 0 none (char set)).run ⟨gap.mid, captured⟩ next = none := by
  have fails (more : Progress → Option Result) :
      (char set).run ⟨gap.mid, captured⟩ more = none := by
    rw [Gap.mid, run_char, absent]
    rfl
  rw [run_rep_failing fails]
  exact refuses captured

theorem loop_quiet {next : Progress → Option Result} (passes : Passes gap greedy set next) :
    Quiet gap fun progress => (rep greedy 0 none (char set)).run progress next := by
  rcases passes with ⟨-, contains, calm⟩ | ⟨absent, refuses⟩
  · intro captured accepted
    simp only [loop_mid contains calm captured] at accepted
    exact accepted
  · exact Refuses.quiet (loop_mid_none absent refuses)

/-- Runs that pass over the gap agree. -/
theorem loop_agree {next : Progress → Option Result} {wide : Progress → Option Other}
    (passes : Passes gap greedy set wide) (agree : Agree gap Rel next wide) {least : Nat}
    (few : least ≤ 1) :
    Agree gap Rel (fun progress => (rep greedy least none (char set)).run progress next)
      (fun progress => (rep greedy least none (char set)).run progress wide) := by
  intro cursor cursorWide captured capturedWide aligned alike
  have stop {cursor cursorWide : Cursor} (here : Aligned gap cursor cursorWide) := agree here alike
  simp only
  induction aligned using Aligned.reads generalizing least with
  | ended last offset here =>
      rw [run_loop_nil, run_loop_nil]
      exact choose_related greedy least .none (stop here)
  | char here later induction =>
      rw [run_loop_cons, run_loop_cons]
      refine choose_related greedy least ?_ (stop here)
      split
      · exact induction (by omega)
      · exact .none
  | blanks last induction =>
      have rest : least - 1 = 0 := by omega
      rw [run_loop_cons, run_loop_cons, rest]
      refine choose_related greedy least ?_ (stop (.at_gap gap last))
      rcases passes with ⟨added, contains, calm⟩ | ⟨absent, refuses⟩
      -- the wide text has one round more, from between the blanks
      · have skip := loop_mid contains calm capturedWide
        rw [added, contains, if_pos rfl, if_pos rfl]
        exact Eq.mpr (congrArg (Option.Rel Rel _) skip) (induction (Nat.zero_le 1))
      · have ended : (rep greedy 0 none (char set)).run
            ⟨⟨some gap.added, gap.blank :: gap.after, gap.before.length + 1⟩, capturedWide⟩
            wide = none := loop_mid_none absent refuses capturedWide
        rw [absent, if_neg Bool.false_ne_true, ended, ite_self]
        exact .none

theorem loop_rule_passes {needed own : Mood} (rule : loopRule greedy set = some (needed, own))
    {next : Progress → Option Result} (holds : needed.Holds gap next) :
    Passes gap greedy set next ∧
      own.Holds gap fun progress => (rep greedy 0 none (char set)).run progress next := by
  unfold loopRule at rule
  split at rule
  · next covered =>
      cases rule
      have added := takes_blanks_iff.mp covered gap.added gap.loose.added_mem
      have blank := takes_blanks_iff.mp covered gap.blank gap.loose.blank_mem
      have calm : if greedy then Quiet gap next else Refuses gap next := by
        cases greedy with
        | true => exact holds
        | false => exact holds
      have passes : Passes gap greedy set next := .inl ⟨added, blank, calm⟩
      exact ⟨passes, loop_quiet passes⟩
  · split at rule
    · next inLine =>
        cases rule
        simp only [takesSpaces, Bool.and_eq_true, Bool.not_eq_true'] at inLine
        obtain ⟨⟨⟨space, tab⟩, line⟩, rfl⟩ := inLine
        have blanks {c : Char} (listed : c ∈ [' ', '\t']) : set.contains c = true := by
          simp only [List.mem_cons, List.not_mem_nil, or_false] at listed
          rcases listed with rfl | rfl
          · exact space
          · exact tab
        have passes : Passes gap true set next := by
          rcases gap.loose with ⟨newline, -⟩ | ⟨blank, added⟩
          · exact .inr ⟨by rw [newline, line], holds.2 newline⟩
          · exact .inl ⟨blanks added, blanks blank, holds.1⟩
        exact ⟨passes, loop_quiet passes,
          fun newline => loop_mid_none (by rw [newline, line]) (holds.2 newline)⟩
    · cases rule

/-- A tame run passes over the gap and has the computed mood. -/
theorem passes_of_loop_mood {least : Nat} {most : Option Nat} {mood own : Mood}
    (found : loopMood greedy least most set mood = some own) {next : Progress → Option Result}
    (holds : mood.Holds gap next) :
    most = none ∧ least ≤ 1 ∧ Passes gap greedy set next ∧
      own.Holds gap fun progress => (rep greedy least most (char set)).run progress next := by
  unfold loopMood at found
  split at found
  · next bounds =>
      obtain ⟨rfl, few⟩ := bounds
      obtain ⟨⟨needed, empty⟩, rule, allowed⟩ := Option.bind_eq_some_iff.mp found
      simp only [Option.ite_none_right_eq_some, Option.some.injEq] at allowed
      obtain ⟨louder, rfl⟩ := allowed
      obtain ⟨passes, quiet⟩ := loop_rule_passes rule (holds.louder louder)
      refine ⟨rfl, few, passes, ?_⟩
      split
      · next none =>
          rw [none]
          exact quiet
      · trivial
  · cases found

end Loops

section Rounds

variable {body : Pattern} {greedy : Bool}

/-- A repetition of a refusing part has the mood of its continuation. -/
theorem rep_mood (refusing : refuses body = true) {next : Progress → Option Result} {mood : Mood}
    (holds : mood.Holds gap next) (greedy : Bool) (least : Nat) (most : Option Nat) :
    mood.Holds gap fun progress => (rep greedy least most body).run progress next := by
  have mid (captured : Option (List Char)) :
      (rep greedy least most body).run ⟨gap.mid, captured⟩ next =
        if 0 < least && most != some 0 then none else next ⟨gap.mid, captured⟩ :=
    run_rep_failing (run_refuses refusing captured) next
  refine holds.mono (fun captured refused => ?_) fun captured behind between accepted => ?_
  · simp only [mid, refused, ite_self]
  · simp only [mid] at accepted
    split at accepted
    · cases accepted
    · next ends =>
        by_cases none : least = 0
        · subst none
          exact rep_accepts greedy most body behind
        · have stopped : most = some 0 := by
            simpa [Nat.pos_of_ne_zero none] using ends
          subst stopped
          rw [run_rep, if_pos rfl]
          exact behind

theorem gate_mood {next : Progress → Option Result} {mood : Mood} (holds : mood.Holds gap next)
    (offset : Nat) :
    mood.Holds gap fun reached => if reached.cursor.offset ≤ offset then none else next reached := by
  have further : gap.mid.offset < gap.beyond.offset := Nat.lt_succ_self _
  refine holds.mono (fun captured refused => ?_) fun captured behind between accepted => ?_
  · simp only [refused, ite_self]
  · simp only at accepted ⊢
    split at accepted
    · cases accepted
    · rw [if_neg (by omega)]
      exact behind

/-- Repetitions agree if their parts do: a round ends further on, so the rest is shorter. -/
theorem rep_agree {next : Progress → Option Result} {wide : Progress → Option Other}
    {mood : Mood}
    (bodies : ∀ {more : Progress → Option Result} {moreWide : Progress → Option Other},
      mood.Holds gap moreWide → Agree gap Rel more moreWide →
        Agree gap Rel (fun progress => body.run progress more)
          (fun progress => body.run progress moreWide))
    (rounds : ∀ least most,
      mood.Holds gap fun progress => (rep greedy least most body).run progress wide)
    (agree : Agree gap Rel next wide) (least : Nat) (most : Option Nat) :
    Agree gap Rel (fun progress => (rep greedy least most body).run progress next)
      (fun progress => (rep greedy least most body).run progress wide) := by
  intro cursor cursorWide captured capturedWide aligned alike
  -- The parts know nothing about where they end. Offsets of aligned places are ordered alike, so a
  -- round is given up on both sides or on none.
  induction left : cursor.rest.length using Nat.strongRecOn
    generalizing cursor cursorWide captured capturedWide least most with
  | ind length induction =>
      have here := agree aligned alike
      change Option.Rel Rel ((rep greedy least most body).run ⟨cursor, captured⟩ next)
        ((rep greedy least most body).run ⟨cursorWide, capturedWide⟩ wide)
      rw [run_rep, run_rep]
      split
      · exact here
      · refine choose_related greedy least (bodies (gate_mood (rounds _ _) _) ?_ aligned alike) here
        intro other otherWide _ _ alignedToo alikeToo
        have same := aligned.offset_le_iff alignedToo
        have total := aligned.total
        have totalToo := alignedToo.total
        simp only [same]
        split
        · exact .none
        · exact induction other.rest.length (by omega) _ _ alignedToo alikeToo rfl

end Rounds

theorem capture_mood {next : Progress → Option Result} {mood : Mood} (holds : mood.Holds gap next)
    (start : Cursor) :
    (if mood = .refuses then Mood.refuses else .loud).Holds gap fun reached =>
      next { reached with
        captured := some (start.rest.take (reached.cursor.offset - start.offset)) } := by
  split
  · next refused =>
      subst refused
      exact fun captured => holds _
  · trivial

/-- A pattern has the mood that is computed for it. -/
theorem run_mood {pattern : Pattern} {mood own : Mood} (found : tame pattern mood = some own)
    {next : Progress → Option Result} (holds : mood.Holds gap next) :
    own.Holds gap fun progress => pattern.run progress next := by
  induction pattern generalizing mood own next with
  | empty =>
      cases found
      exact holds
  | char set =>
      simp only [tame, Option.ite_none_right_eq_some, Option.some.injEq] at found
      obtain ⟨avoided, rfl⟩ := found
      have refusing : refuses (char set) = true := avoided
      exact fun captured => run_refuses refusing captured next
  | seq first second firstCase secondCase =>
      obtain ⟨between, later, earlier⟩ := Option.bind_eq_some_iff.mp found
      exact firstCase earlier (secondCase later holds)
  | alt first second firstCase secondCase =>
      obtain ⟨one, left, rest⟩ := Option.bind_eq_some_iff.mp found
      obtain ⟨other, right, rfl⟩ := Option.map_eq_some_iff.mp rest
      obtain ⟨low, high⟩ := one.rank_le_max other
      exact ((firstCase left holds).louder low).or_else ((secondCase right holds).louder high)
  | rep greedy least most body bodyCase =>
      simp only [tame] at found
      split at found
      · next set blank =>
          obtain rfl := blank_set_eq_some blank
          exact (passes_of_loop_mood found holds).2.2.2
      · split at found
        · next refusing =>
            obtain ⟨-, -, rfl⟩ := Option.map_eq_some_iff.mp found
            split
            · next needed =>
                intro captured
                simp only [run_rep_failing (run_refuses refusing captured), needed, if_true]
            · exact rep_mood refusing holds greedy least most
        · obtain ⟨-, -, rfl⟩ := Option.map_eq_some_iff.mp found
          trivial
  | capture body bodyCase =>
      obtain ⟨inner, given, rfl⟩ := Option.map_eq_some_iff.mp found
      split
      · next refused =>
          subst refused
          exact fun captured => bodyCase given (capture_mood holds gap.mid) captured
      · trivial
  | wordEdge =>
      cases found
      have refusing : refuses wordEdge = true := rfl
      exact fun captured => run_refuses refusing captured next
  | lineStart =>
      cases found
      split
      · next soft =>
          have settled : Mood.Holds gap next .settled := holds.louder soft
          intro captured
          by_cases line : gap.added = '\n'
          · have newline := gap.loose.newline line
            simp only [run, settled.2 newline captured, ite_self]
          · simp [run, Gap.mid, line]
      · trivial
  | textStart => cases found
  | textEnd => cases found
  | notBefore set => cases found
  | notAfter set => cases found

section Agreement

theorem char_agree {set : CharSet} (avoided : avoidsBlanks set = true)
    {next : Progress → Option Result} {wide : Progress → Option Other}
    (agree : Agree gap Rel next wide) :
    Agree gap Rel (fun progress => (char set).run progress next)
      (fun progress => (char set).run progress wide) := by
  intro cursor cursorWide captured capturedWide aligned alike
  simp only
  induction aligned using Aligned.reads with
  | ended last offset here => exact .none
  | char here later =>
      rw [run_char, run_char]
      exact rel_guard _ (agree later alike)
  | blanks last =>
      have blank := avoids_blanks_iff.mp avoided gap.blank gap.loose.blank_mem
      have added := avoids_blanks_iff.mp avoided gap.added gap.loose.added_mem
      rw [run_char, run_char, blank, added]
      exact .none

/-- Tame patterns agree in front of continuations that do. -/
theorem run_agree {pattern : Pattern} {mood own : Mood} (found : tame pattern mood = some own)
    {next : Progress → Option Result} {wide : Progress → Option Other}
    (holds : mood.Holds gap wide) (agree : Agree gap Rel next wide) :
    Agree gap Rel (fun progress => pattern.run progress next)
      (fun progress => pattern.run progress wide) := by
  induction pattern generalizing mood own next wide with
  | empty => exact agree
  | char set =>
      simp only [tame, Option.ite_none_right_eq_some] at found
      exact char_agree found.1 agree
  | seq first second firstCase secondCase =>
      obtain ⟨between, later, earlier⟩ := Option.bind_eq_some_iff.mp found
      -- the first part was checked against the mood of the second, not of `next`
      exact firstCase earlier (run_mood later holds) (secondCase later holds agree)
  | alt first second firstCase secondCase =>
      obtain ⟨one, left, rest⟩ := Option.bind_eq_some_iff.mp found
      obtain ⟨other, right, -⟩ := Option.map_eq_some_iff.mp rest
      exact fun aligned alike => rel_or_else (firstCase left holds agree aligned alike)
        (secondCase right holds agree aligned alike)
  | rep greedy least most body bodyCase =>
      simp only [tame] at found
      split at found
      · next set blank =>
          obtain rfl := blank_set_eq_some blank
          obtain ⟨rfl, few, passes, -⟩ := passes_of_loop_mood found holds
          exact loop_agree passes agree few
      · split at found
        · next refusing =>
            obtain ⟨inner, given, -⟩ := Option.map_eq_some_iff.mp found
            exact rep_agree (bodyCase given) (rep_mood refusing holds greedy) agree least most
        · obtain ⟨inner, given, -⟩ := Option.map_eq_some_iff.mp found
          exact rep_agree (bodyCase given) (fun _ _ => trivial) agree least most
  | capture body bodyCase =>
      obtain ⟨inner, given, -⟩ := Option.map_eq_some_iff.mp found
      intro cursor cursorWide captured capturedWide aligned alike
      refine bodyCase given (capture_mood holds cursorWide) ?_ aligned alike
      intro other otherWide _ _ reached _
      exact agree reached (.some (aligned.between reached))
  | wordEdge =>
      intro cursor cursorWide captured capturedWide aligned alike
      have last : lastIsWord cursor = lastIsWord cursorWide := by
        rw [lastIsWord, lastIsWord, aligned.last_eq]
      simp only [run, last, aligned.next_is_word]
      exact rel_guard _ (agree aligned alike)
  | lineStart =>
      intro cursor cursorWide captured capturedWide aligned alike
      simp only [run, aligned.last_eq]
      exact rel_guard _ (agree aligned alike)
  | textStart => cases found
  | textEnd => cases found
  | notBefore set => cases found
  | notAfter set => cases found

end Agreement

end Pattern

end EditImpact
