import EditImpact.Pattern.Build
import EditImpact.Pattern.Search

/-!
# Running a pattern over a known text

What the parts of a pattern do at a place whose text is known: a literal reads itself, a greedy run
of characters first reads as many as it can, and an optional part that fails is passed over.
-/

namespace EditImpact.Pattern

set_option autoImplicit false

variable {Result : Type}

theorem run_append (first second : Pattern) (progress : Progress)
    (next : Progress → Option Result) :
    (first ++ second).run progress next =
      first.run progress fun reached => second.run reached next := rfl

theorem run_char (set : CharSet) (c : Char) (last : Option Char) (rest : List Char) (offset : Nat)
    (captured : Option (List Char)) (next : Progress → Option Result) :
    (char set).run ⟨⟨last, c :: rest, offset⟩, captured⟩ next =
      if set.contains c then next ⟨⟨some c, rest, offset + 1⟩, captured⟩ else none := rfl

theorem run_one (c d : Char) (last : Option Char) (rest : List Char) (offset : Nat)
    (captured : Option (List Char)) (next : Progress → Option Result) :
    (one c).run ⟨⟨last, d :: rest, offset⟩, captured⟩ next =
      if c = d then next ⟨⟨some d, rest, offset + 1⟩, captured⟩ else none := by
  simp [one, run, CharSet.contains, CharItem.holds]

theorem run_chars_cons (c : Char) (text : List Char) (progress : Progress)
    (next : Progress → Option Result) :
    (chars (c :: text)).run progress next =
      (one c).run progress fun reached => (chars text).run reached next := by
  cases text with
  | nil => rfl
  | cons d text => rfl

theorem last_cons (c : Char) (text : List Char) (last : Option Char) :
    text.getLast?.or (some c) = (c :: text).getLast?.or last := by
  cases text with
  | nil => rfl
  | cons d text => simp [List.getLast?_eq_some_getLast]

/-- A literal reads its own text. -/
theorem run_chars (text rest : List Char) (last : Option Char) (offset : Nat)
    (captured : Option (List Char)) (next : Progress → Option Result) :
    (chars text).run ⟨⟨last, text ++ rest, offset⟩, captured⟩ next =
      next ⟨⟨text.getLast?.or last, rest, offset + text.length⟩, captured⟩ := by
  induction text generalizing last offset with
  | nil => rfl
  | cons c text induction =>
      rw [run_chars_cons, List.cons_append, run_one, if_pos rfl, induction, last_cons c text last,
        List.length_cons, Nat.add_assoc, Nat.add_comm 1]

/-- A literal reads its own text or fails. -/
theorem run_chars_eq (word text : List Char) (last : Option Char) (offset : Nat)
    (captured : Option (List Char)) (next : Progress → Option Result) :
    (chars word).run ⟨⟨last, text, offset⟩, captured⟩ next =
      (Text.afterStart? word text).bind fun rest =>
        next ⟨⟨word.getLast?.or last, rest, offset + word.length⟩, captured⟩ := by
  induction word generalizing text last offset with
  | nil => rfl
  | cons c word induction =>
      rw [run_chars_cons]
      cases text with
      | nil => rfl
      | cons d text =>
          rw [run_one, Text.afterStart?]
          by_cases same : c = d
          · subst same
            rw [if_pos rfl, if_pos (beq_self_eq_true c), induction, last_cons c word last,
              List.length_cons, Nat.add_assoc, Nat.add_comm 1]
          · rw [if_neg same, if_neg (by simpa using same)]
            rfl

theorem run_chars_of_head {c : Char} (text : List Char) {rest : List Char}
    (differs : rest.head? ≠ some c) (last : Option Char) (offset : Nat) (captured : Option (List Char))
    (next : Progress → Option Result) :
    (chars (c :: text)).run ⟨⟨last, rest, offset⟩, captured⟩ next = none := by
  rw [run_chars_cons]
  cases rest with
  | nil => rfl
  | cons d rest =>
      have other : c ≠ d := fun same => differs (congrArg some same.symm)
      rw [run_one, if_neg other]

theorem run_word_edge {progress : Progress}
    (edge : (lastIsWord progress.cursor != nextIsWord progress.cursor) = true)
    (next : Progress → Option Result) : wordEdge.run progress next = next progress :=
  if_pos edge

theorem run_opt_absent {body : Pattern} {progress : Progress}
    (absent : ∀ more : Progress → Option Result, body.run progress more = none)
    (next : Progress → Option Result) : (opt body).run progress next = next progress := by
  simp [opt, run, repeatWith, absent]

/-- Fuel beyond the length of the word that is read is never used up. -/
theorem loop_longest {set : CharSet} {rest : List Char}
    (ended : ∀ c, rest.head? = some c → set.contains c = false) (captured : Option (List Char))
    {next : Progress → Option Result} {result : Result} {word : List Char}
    (within : ∀ c ∈ word, set.contains c = true) {fuel : Nat} (enough : word.length < fuel)
    {last : Option Char} {offset : Nat}
    (accepted : next ⟨⟨word.getLast?.or last, rest, offset + word.length⟩, captured⟩ =
      some result) :
    repeatWith true (fun reached more => run (char set) reached more) fuel 0 none
      ⟨⟨last, word ++ rest, offset⟩, captured⟩ next = some result := by
  induction word generalizing fuel last offset with
  | nil =>
      cases fuel with
      | zero => exact absurd enough (Nat.not_lt_zero _)
      | succ fuel =>
          cases rest with
          | nil => simpa [repeatWith, run] using accepted
          | cons c rest => simpa [repeatWith, run, ended c rfl] using accepted
  | cons c word induction =>
      cases fuel with
      | zero => exact absurd enough (Nat.not_lt_zero _)
      | succ fuel =>
          have here := within c List.mem_cons_self
          rw [← last_cons c word last, List.length_cons, Nat.add_comm word.length 1,
            ← Nat.add_assoc] at accepted
          have later := induction (fun d member => within d (List.mem_cons_of_mem c member))
            (Nat.lt_of_succ_lt_succ enough) accepted
          rw [repeatWith]
          simp only [reduceCtorEq, if_false, Nat.lt_irrefl, if_true, List.cons_append, run_char, here,
            Nat.add_eq_left, Nat.one_ne_zero]
          exact congrArg (· <|> _) later

/-- A run of characters of a set reads all of them, if the rest of the pattern accepts that. -/
theorem run_many_longest {set : CharSet} (word : List Char) {rest : List Char}
    (within : ∀ c ∈ word, set.contains c = true)
    (ended : ∀ c, rest.head? = some c → set.contains c = false) {last : Option Char} {offset : Nat}
    {captured : Option (List Char)} {next : Progress → Option Result} {result : Result}
    (accepted : next ⟨⟨word.getLast?.or last, rest, offset + word.length⟩, captured⟩ =
      some result) :
    (many (char set)).run ⟨⟨last, word ++ rest, offset⟩, captured⟩ next = some result := by
  apply loop_longest ended captured within _ accepted
  rw [List.length_append]
  omega

end EditImpact.Pattern
