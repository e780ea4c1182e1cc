import EditImpact.Proofs.Pattern.Repeating
import EditImpact.Proofs.Text.Trim
import Mathlib.Logic.Basic

/-!
# What a pattern can read

`Pattern.Takes` says without a search what a pattern can read between the character before it and
the text behind it. The search leaves out none of these readings: a pattern occurs in a text if and
only if it can read some part of it (`occurs_iff`). So what a pattern finds can be told from its
parts alone.
-/

namespace EditImpact.Pattern

set_option autoImplicit false

/-- Rounds of a repetition, one behind the other. No round reads nothing. -/
inductive Rounds (round : Option Char → List Char → List Char → Prop) :
    Nat → Option Nat → Option Char → List Char → List Char → Prop where
  | stop {least : Nat} {most : Option Nat} {last : Option Char} {rest : List Char}
      (enough : least = 0 ∨ most = some 0) : Rounds round least most last [] rest
  | again {least : Nat} {most : Option Nat} {last : Option Char} {first more rest : List Char}
      (going : most ≠ some 0) (moved : first ≠ []) (here : round last first (more ++ rest))
      (later : Rounds round (least - 1) (most.map (· - 1)) (first.getLast?.or last) more rest) :
      Rounds round least most last (first ++ more) rest

/-- A pattern can read a text between the character before it and the rest behind it. -/
def Takes : Pattern → Option Char → List Char → List Char → Prop
  | empty, _, read, _ => read = []
  | char set, _, read, _ => ∃ c, set.contains c = true ∧ read = [c]
  | seq first second, last, read, rest =>
    ∃ front back, read = front ++ back ∧ first.Takes last front (back ++ rest) ∧
      second.Takes (front.getLast?.or last) back rest
  | alt first second, last, read, rest => first.Takes last read rest ∨ second.Takes last read rest
  | rep _ least most body, last, read, rest => Rounds body.Takes least most last read rest
  | capture body, last, read, rest => body.Takes last read rest
  | wordEdge, last, read, rest =>
    read = [] ∧ last.any Text.isWord ≠ rest.head?.any Text.isWord
  | textStart, last, read, _ => read = [] ∧ last = none
  | lineStart, last, read, _ => read = [] ∧ (last = none ∨ last = some '\n')
  | textEnd, _, read, rest => read = [] ∧ (rest = [] ∨ rest = ['\n'])
  | notBefore set, _, read, rest => read = [] ∧ ∀ c, rest.head? = some c → set.contains c = false
  | notAfter set, last, read, _ => read = [] ∧ ∀ c, last = some c → set.contains c = false

/-! ## The search leaves no reading out -/

section Search

variable {Result : Type}

/-- Which readings from a place on a continuation accepts. -/
def Decides (next : Progress → Option Result) (last : Option Char) (text : List Char)
    (offset : Nat) (accepts : List Char → List Char → Prop) : Prop :=
  ∀ read rest captured, text = read ++ rest →
    ((next ⟨⟨read.getLast?.or last, rest, offset + read.length⟩, captured⟩).isSome = true ↔
      accepts read rest)

/-- A pattern succeeds if and only if one of its readings is accepted. -/
def Complete (Result : Type) (pattern : Pattern) : Prop :=
  ∀ {next : Progress → Option Result} {last : Option Char} {text : List Char} {offset : Nat}
    {accepts : List Char → List Char → Prop} (captured : Option (List Char)),
    Decides next last text offset accepts →
      ((pattern.run ⟨⟨last, text, offset⟩, captured⟩ next).isSome = true ↔
        ∃ read rest, text = read ++ rest ∧ pattern.Takes last read rest ∧ accepts read rest)

section Decides

variable {next : Progress → Option Result} {last : Option Char} {text : List Char} {offset : Nat}
  {accepts : List Char → List Char → Prop}

theorem Decides.here (decides : Decides next last text offset accepts)
    (captured : Option (List Char)) :
    (next ⟨⟨last, text, offset⟩, captured⟩).isSome = true ↔ accepts [] text :=
  decides [] text captured rfl

/-- Behind what was read already, only the rest of a reading counts. -/
theorem Decides.behind {front back : List Char}
    (decides : Decides next last (front ++ back) offset accepts) :
    Decides next (front.getLast?.or last) back (offset + front.length)
      fun read rest => accepts (front ++ read) rest := by
  intro read rest captured text
  have whole := decides (front ++ read) rest captured (by rw [text, List.append_assoc])
  rw [List.getLast?_append, Option.or_assoc, List.length_append, ← Nat.add_assoc] at whole
  exact whole

end Decides

theorem reads_nothing_iff (takes : List Char → Prop) {text : List Char}
    {accepts : List Char → List Char → Prop} :
    (∃ read rest, text = read ++ rest ∧ (read = [] ∧ takes rest) ∧ accepts read rest) ↔
      takes text ∧ accepts [] text := by
  constructor
  · rintro ⟨_, rest, rfl, ⟨rfl, here⟩, accepted⟩
    exact ⟨here, accepted⟩
  · rintro ⟨here, accepted⟩
    exact ⟨[], text, rfl, ⟨rfl, here⟩, accepted⟩

theorem ite_is_some {holds : Prop} [Decidable holds] {result : Option Result} :
    (if holds then result else none).isSome = true ↔ holds ∧ result.isSome = true := by
  split <;> simp [*]

theorem choose_is_some {greedy : Bool} {least : Nat} {again stop : Option Result} :
    (choose greedy least again stop).isSome = true ↔
      again.isSome = true ∨ least = 0 ∧ stop.isSome = true := by
  unfold choose
  split
  · next more => simp [Nat.ne_of_gt more]
  · next enough =>
      rw [Nat.not_lt, Nat.le_zero] at enough
      split
      · simp [enough]
      · simp [enough, or_comm]

theorem rounds_iff {round : Option Char → List Char → List Char → Prop} {least : Nat}
    {most : Option Nat} {last : Option Char} {read rest : List Char} :
    Rounds round least most last read rest ↔
      read = [] ∧ (least = 0 ∨ most = some 0) ∨
      most ≠ some 0 ∧ ∃ first more, read = first ++ more ∧ first ≠ [] ∧
        round last first (more ++ rest) ∧
        Rounds round (least - 1) (most.map (· - 1)) (first.getLast?.or last) more rest := by
  constructor
  · rintro (enough | ⟨going, moved, here, later⟩)
    · exact .inl ⟨rfl, enough⟩
    · exact .inr ⟨going, _, _, rfl, moved, here, later⟩
  · rintro (⟨rfl, enough⟩ | ⟨going, first, more, rfl, moved, here, later⟩)
    · exact .stop enough
    · exact .again going moved here later

/-- A pattern that only looks at its place is complete when it takes nothing where it passes. -/
theorem look_complete {pattern : Pattern} (passes : Option Char → List Char → Prop)
    (runs : ∀ (next : Progress → Option Result) (last : Option Char) (text : List Char)
      (offset : Nat) (captured : Option (List Char)),
      (pattern.run ⟨⟨last, text, offset⟩, captured⟩ next).isSome = true ↔
        passes last text ∧ (next ⟨⟨last, text, offset⟩, captured⟩).isSome = true)
    (takes : ∀ (last : Option Char) (read rest : List Char),
      pattern.Takes last read rest ↔ read = [] ∧ passes last rest) :
    pattern.Complete Result := by
  intro next last text offset accepts captured decides
  rw [runs, decides.here captured]
  simp only [takes]
  exact (reads_nothing_iff (passes last)).symm

theorem char_complete (set : CharSet) : (char set).Complete Result := by
  intro next last text offset accepts captured decides
  cases text with
  | nil => simp [run, Takes]
  | cons c rest =>
      have here : (next ⟨⟨some c, rest, offset + 1⟩, captured⟩).isSome = true ↔
          accepts [c] rest := decides [c] rest captured rfl
      rw [run_char, ite_is_some, here]
      constructor
      · rintro ⟨contains, accepted⟩
        exact ⟨[c], rest, rfl, ⟨c, contains, rfl⟩, accepted⟩
      · rintro ⟨_, _, text, ⟨d, contains, rfl⟩, accepted⟩
        cases text
        exact ⟨contains, accepted⟩

theorem seq_complete {first second : Pattern} (firsts : first.Complete Result)
    (seconds : second.Complete Result) : (seq first second).Complete Result := by
  intro next last text offset accepts captured decides
  have inner : Decides (fun reached => second.run reached next) last text offset
      fun front tail => ∃ back rest, tail = back ++ rest ∧
        second.Takes (front.getLast?.or last) back rest ∧ accepts (front ++ back) rest := by
    rintro front tail captured rfl
    exact seconds captured decides.behind
  rw [run, firsts captured inner]
  constructor
  · rintro ⟨front, _, rfl, here, back, rest, rfl, later, accepted⟩
    exact ⟨front ++ back, rest, (List.append_assoc ..).symm, ⟨front, back, rfl, here, later⟩,
      accepted⟩
  · rintro ⟨_, rest, rfl, ⟨front, back, rfl, here, later⟩, accepted⟩
    exact ⟨front, back ++ rest, List.append_assoc .., here, back, rest, rfl, later, accepted⟩

theorem rep_complete {body : Pattern} (bodies : body.Complete Result) (greedy : Bool) (least : Nat)
    (most : Option Nat) : (rep greedy least most body).Complete Result := by
  intro next last text offset accepts captured decides
  -- on the text that is left, which every round makes shorter
  induction length : text.length using Nat.strongRecOn
    generalizing least most last text offset accepts captured with
  | ind count induction =>
      have stop := decides.here captured
      have again : Decides (fun reached : Progress =>
            if reached.cursor.offset ≤ offset then none
            else (rep greedy (least - 1) (most.map (· - 1)) body).run reached next)
          last text offset fun front tail => front ≠ [] ∧ ∃ more rest, tail = more ++ rest ∧
            Rounds body.Takes (least - 1) (most.map (· - 1)) (front.getLast?.or last) more rest ∧
              accepts (front ++ more) rest := by
        rintro front tail captured rfl
        by_cases moved : front = []
        · simp [moved]
        · have positive := List.length_pos_iff.mpr moved
          have ahead : ¬offset + front.length ≤ offset := by omega
          rw [List.length_append] at length
          dsimp only
          rw [if_neg ahead, and_iff_right moved]
          exact induction tail.length (by omega) _ _ _ decides.behind rfl
      rw [run_rep]
      by_cases ended : most = some 0
      · rw [if_pos ended, stop]
        constructor
        · intro accepted
          exact ⟨[], text, rfl, .stop (.inr ended), accepted⟩
        · rintro ⟨read, rest, rfl, rounds, accepted⟩
          rcases rounds_iff.mp rounds with ⟨rfl, -⟩ | ⟨going, -⟩
          · exact accepted
          · exact absurd ended going
      · rw [if_neg ended, choose_is_some, stop, bodies captured again]
        constructor
        · rintro (⟨front, _, rfl, here, moved, more, rest, rfl, later, accepted⟩ |
            ⟨enough, accepted⟩)
          · exact ⟨front ++ more, rest, (List.append_assoc ..).symm, .again ended moved here later,
              accepted⟩
          · exact ⟨[], text, rfl, .stop (.inl enough), accepted⟩
        · rintro ⟨read, rest, rfl, rounds, accepted⟩
          rcases rounds_iff.mp rounds with
            ⟨rfl, enough⟩ | ⟨-, first, more, rfl, moved, here, later⟩
          · exact .inr ⟨enough.resolve_right ended, accepted⟩
          · exact .inl ⟨first, more ++ rest, List.append_assoc .., here, moved, more, rest, rfl,
              later, accepted⟩

/-- A pattern succeeds if and only if one of its readings is accepted. -/
theorem run_complete (pattern : Pattern) : pattern.Complete Result := by
  induction pattern with
  | empty => exact look_complete (fun _ _ => True) (by simp [run]) (by simp [Takes])
  | char set => exact char_complete set
  | seq first second firstCase secondCase => exact seq_complete firstCase secondCase
  | alt first second firstCase secondCase =>
      intro next last text offset accepts captured decides
      rw [run, or_else_some, Bool.or_eq_true, firstCase captured decides,
        secondCase captured decides]
      simp only [Takes, or_and_right, and_or_left, exists_or]
  | rep greedy least most body bodyCase => exact rep_complete bodyCase greedy least most
  | capture body bodyCase =>
      intro next last text offset accepts captured decides
      exact bodyCase captured fun read rest _ text => decides read rest _ text
  | wordEdge =>
      refine look_complete (fun last text => last.any Text.isWord ≠ text.head?.any Text.isWord)
        ?_ fun _ _ _ => Iff.rfl
      intro next last text offset captured
      rw [run, ite_is_some]
      apply and_congr_left'
      cases last <;> cases text <;> simp [lastIsWord, nextIsWord]
  | textStart =>
      refine look_complete (fun last _ => last = none) ?_ fun _ _ _ => Iff.rfl
      intro next last text offset captured
      rw [run, ite_is_some, Option.isNone_iff_eq_none]
  | lineStart =>
      refine look_complete (fun last _ => last = none ∨ last = some '\n') ?_ fun _ _ _ => Iff.rfl
      intro next last text offset captured
      rw [run, ite_is_some, Bool.or_eq_true, Option.isNone_iff_eq_none, beq_iff_eq]
  | textEnd =>
      refine look_complete (fun _ text => text = [] ∨ text = ['\n']) ?_ fun _ _ _ => Iff.rfl
      intro next last text offset captured
      rw [run, ite_is_some, Bool.or_eq_true, List.isEmpty_iff, beq_iff_eq]
  | notBefore set =>
      refine look_complete (fun _ text => ∀ c, text.head? = some c → set.contains c = false)
        ?_ fun _ _ _ => Iff.rfl
      intro next last text offset captured
      cases text with
      | nil => simp [run]
      | cons c rest => cases contains : set.contains c <;> simp [run, contains]
  | notAfter set =>
      refine look_complete (fun last _ => ∀ c, last = some c → set.contains c = false)
        ?_ fun _ _ _ => Iff.rfl
      intro next last text offset captured
      cases last with
      | none => simp [run]
      | some c => cases contains : set.contains c <;> simp [run, contains]

theorem match_at_is_some {pattern : Pattern} {last : Option Char} {text : List Char}
    {offset : Nat} : (pattern.matchAt ⟨last, text, offset⟩).isSome = true ↔
      ∃ read rest, text = read ++ rest ∧ pattern.Takes last read rest := by
  have all : Decides (fun reached : Progress => some (Match.mk offset reached.cursor.offset
      (text.take (reached.cursor.offset - offset)) reached.captured)) last text offset
      fun _ _ => True := fun _ _ _ _ => by simp
  have complete := run_complete pattern none all
  simp only [and_true] at complete
  exact complete

theorem search_from_is_some {pattern : Pattern} {last : Option Char} {text : List Char}
    {offset : Nat} : (pattern.searchFrom last text offset).isSome = true ↔
      ∃ before read after, text = before ++ (read ++ after) ∧
        pattern.Takes (before.getLast?.or last) read after := by
  induction text generalizing last offset with
  | nil =>
      rw [searchFrom, match_at_is_some]
      constructor
      · rintro ⟨read, rest, text, takes⟩
        exact ⟨[], read, rest, text, takes⟩
      · rintro ⟨before, read, after, text, takes⟩
        obtain ⟨rfl, nothing⟩ := List.append_eq_nil_iff.mp text.symm
        exact ⟨read, after, nothing.symm, takes⟩
  | cons c rest induction =>
      rw [searchFrom, or_else_some, Bool.or_eq_true, match_at_is_some, induction]
      constructor
      · rintro (⟨read, after, text, takes⟩ | ⟨before, read, after, rfl, takes⟩)
        · exact ⟨[], read, after, text, takes⟩
        · rw [last_cons c before last] at takes
          exact ⟨c :: before, read, after, rfl, takes⟩
      · rintro ⟨before, read, after, text, takes⟩
        cases before with
        | nil => exact .inl ⟨read, after, text, takes⟩
        | cons d before =>
            obtain ⟨rfl, later⟩ := List.cons.inj text
            rw [← last_cons c before last] at takes
            exact .inr ⟨before, read, after, later, takes⟩

/-- A pattern occurs in a text if and only if it can read some part of it. -/
theorem occurs_iff {pattern : Pattern} {text : List Char} :
    pattern.occurs text = true ↔ ∃ before read after, text = before ++ (read ++ after) ∧
      pattern.Takes before.getLast? read after := by
  rw [occurs, search, search_from_is_some]
  simp only [Option.or_none]

end Search

/-! ## What the vocabulary reads -/

section Vocabulary

variable {last : Option Char} {read rest : List Char}

theorem takes_append {first second : Pattern} :
    (first ++ second).Takes last read rest ↔
      ∃ front back, read = front ++ back ∧ first.Takes last front (back ++ rest) ∧
        second.Takes (front.getLast?.or last) back rest := Iff.rfl

theorem takes_word_edge : wordEdge.Takes last read rest ↔
    read = [] ∧ last.any Text.isWord ≠ rest.head?.any Text.isWord := Iff.rfl

theorem takes_one {c : Char} : (one c).Takes last read rest ↔ read = [c] := by
  simp [one, Takes, CharSet.contains, CharItem.holds]

theorem takes_chars {word : List Char} : (chars word).Takes last read rest ↔ read = word := by
  induction word generalizing last read rest with
  | nil => rfl
  | cons c word induction =>
      cases word with
      | nil => exact takes_one
      | cons d word => simp [chars, Takes, takes_one, induction]

theorem takes_lit {word : String} : (lit word).Takes last read rest ↔ read = word.toList :=
  takes_chars

theorem takes_first_of {patterns : List Pattern} (some' : patterns ≠ []) :
    (firstOf patterns).Takes last read rest ↔
      ∃ pattern ∈ patterns, pattern.Takes last read rest := by
  induction patterns with
  | nil => exact absurd rfl some'
  | cons pattern patterns induction =>
      cases patterns with
      | nil => simp [firstOf]
      | cons other patterns => simp [firstOf, Takes, induction]

theorem takes_any_word {words : List String} (some' : words ≠ []) :
    (anyWord words).Takes last read rest ↔ ∃ word ∈ words, read = word.toList := by
  rw [anyWord, takes_first_of (by simpa using some')]
  simp [takes_lit]

/-- A repeated character reads any text of the set that is long enough. -/
theorem takes_loop {greedy : Bool} {least : Nat} {set : CharSet} :
    (rep greedy least none (char set)).Takes last read rest ↔
      least ≤ read.length ∧ ∀ c ∈ read, set.contains c = true := by
  rw [Takes]
  induction read generalizing least last with
  | nil =>
      rw [rounds_iff]
      constructor
      · rintro (⟨-, enough⟩ | ⟨-, first, more, text, moved, -⟩)
        · simpa using enough
        · exact absurd (List.append_eq_nil_iff.mp text.symm).1 moved
      · rintro ⟨enough, -⟩
        exact .inl ⟨rfl, .inl (Nat.le_zero.mp enough)⟩
  | cons c read induction =>
      rw [rounds_iff, List.length_cons, List.forall_mem_cons]
      constructor
      · rintro (⟨nothing, -⟩ | ⟨-, _, more, text, -, ⟨d, contains, rfl⟩, later⟩)
        · cases nothing
        · obtain ⟨rfl, rfl⟩ := List.cons.inj text
          obtain ⟨enough, within⟩ := induction.mp later
          exact ⟨by omega, contains, within⟩
      · rintro ⟨enough, contains, within⟩
        exact .inr ⟨nofun, [c], read, rfl, List.cons_ne_nil c [], ⟨c, contains, rfl⟩,
          induction.mpr ⟨by omega, within⟩⟩

theorem takes_many {set : CharSet} :
    (many (char set)).Takes last read rest ↔ ∀ c ∈ read, set.contains c = true := by
  rw [many, takes_loop, and_iff_right (Nat.zero_le _)]

theorem takes_blanks : blanks.Takes last read rest ↔ Text.AllBlank read := by
  simp [blanks, blank, takes_many, Text.AllBlank, CharSet.contains, CharItem.holds]

theorem takes_blanks1 : blanks1.Takes last read rest ↔ read ≠ [] ∧ Text.AllBlank read := by
  simp [blanks1, many1, blank, takes_loop, Text.AllBlank, CharSet.contains, CharItem.holds,
    Nat.one_le_iff_ne_zero]

theorem takes_opt {body : Pattern} :
    (opt body).Takes last read rest ↔ read = [] ∨ body.Takes last read rest := by
  rw [opt, Takes, rounds_iff]
  constructor
  · rintro (⟨nothing, -⟩ | ⟨-, first, more, rfl, -, here, later⟩)
    · exact .inl nothing
    · rcases rounds_iff.mp later with ⟨rfl, -⟩ | ⟨going, -⟩
      · exact .inr ((List.append_nil first).symm ▸ here)
      · exact absurd rfl going
  · intro takes
    by_cases nothing : read = []
    · exact .inl ⟨nothing, .inl rfl⟩
    · exact .inr ⟨by simp, read, [], (List.append_nil read).symm, nothing,
        takes.resolve_left nothing, .stop (.inr rfl)⟩

end Vocabulary

end EditImpact.Pattern
