import EditImpact.Proofs.Source.Causality
import EditImpact.Proofs.Source.GapSearch
import Mathlib.Order.Bounds.Basic

/-!
# The closing parenthesis and the masked text

The closing parenthesis of a list is looked for in the text without comments, by a reader that knows
one kind of string: any quote opens it, and the same quote closes it unless a backslash stands
before. The masking reader knows escape sequences, long strings and the quotes of each language.
Where both take every quote alike, the parenthesis is the first place up to which the masked text
closes what it opens (`closing_paren_is_first_level`). They part at a backslash that is itself
escaped, at a quote that opens no string in the language, and at a quote inside a long string
(`quotes_taken_differently`).
-/

namespace EditImpact.Source

open Text

set_option autoImplicit false

section Levels

/-- Opened minus closed parentheses. -/
def netParens (text : List Char) : Int := text.count '(' - text.count ')'

/-- The first place from `index` on up to which as many parentheses are closed as are opened. -/
def IsClosing (masked : List Char) (index place : Nat) : Prop :=
  IsLeast {k | index ≤ k ∧ k < masked.length ∧
    netParens ((masked.drop index).take (k + 1 - index)) = 0} place

def parenWeight (c : Char) : Int := if c = '(' then 1 else if c = ')' then -1 else 0

theorem net_parens_cons (c : Char) (text : List Char) :
    netParens (c :: text) = parenWeight c + netParens text := by
  unfold netParens parenWeight
  rw [List.count_cons, List.count_cons]
  by_cases opens : c = '('
  · subst opens
    simp
    omega
  · by_cases closes : c = ')'
    · subst closes
      simp
      omega
    · simp [opens, closes]

/-- The depth after a character of a masked text; nothing, when it is the parenthesis looked for. -/
def levelStep (depth : Int) (c : Char) : Option Int :=
  if c = '(' then some (depth + 1)
  else if c = ')' then if depth = 1 then none else some (depth - 1)
  else some depth

/-- Where the parentheses of a masked text bring `depth` back to zero. -/
def levelFrom : Int → List Char → Option Nat
  | _, [] => none
  | depth, c :: rest =>
    match levelStep depth c with
    | none => some 0
    | some deeper => (levelFrom deeper rest).map (· + 1)

theorem level_step_none {depth : Int} {c : Char} (closed : levelStep depth c = none) :
    depth + parenWeight c = 0 := by
  unfold levelStep at closed
  unfold parenWeight
  grind

theorem level_step_some {depth deeper : Int} {c : Char}
    (inside : 0 < depth ∨ depth = 0 ∧ c = '(') (stepped : levelStep depth c = some deeper) :
    deeper = depth + parenWeight c ∧ 0 < deeper := by
  unfold levelStep at stepped
  unfold parenWeight
  grind

theorem level_from_iff {depth : Int} {text : List Char}
    (inside : 0 < depth ∨ depth = 0 ∧ text.head? = some '(') (place : Nat) :
    levelFrom depth text = some place ↔
      place < text.length ∧ depth + netParens (text.take (place + 1)) = 0 ∧
        ∀ k < place, depth + netParens (text.take (k + 1)) ≠ 0 := by
  induction text generalizing depth place with
  | nil => simp [levelFrom]
  | cons c rest induction =>
      have weigh (k : Nat) : depth + netParens ((c :: rest).take (k + 1)) =
          depth + parenWeight c + netParens (rest.take k) := by
        rw [List.take_succ_cons, net_parens_cons]
        omega
      have empty : netParens (rest.take 0) = 0 := rfl
      simp only [weigh]
      cases stepped : levelStep depth c with
      | none =>
          have zero := level_step_none stepped
          simp only [levelFrom, stepped, Option.some.injEq]
          constructor
          · rintro rfl
            refine ⟨Nat.zero_lt_succ _, ?_, nofun⟩
            rw [empty]
            omega
          · rintro ⟨-, -, before⟩
            by_contra later
            apply before 0 (by omega)
            rw [empty]
            omega
      | some deeper =>
          have inside' : 0 < depth ∨ depth = 0 ∧ c = '(' := by simpa using inside
          obtain ⟨rfl, still⟩ := level_step_some inside' stepped
          simp only [levelFrom, stepped]
          cases place with
          | zero =>
              constructor
              · intro found
                obtain ⟨later, -, next⟩ := Option.map_eq_some_iff.mp found
                omega
              · rintro ⟨-, zero, -⟩
                rw [empty] at zero
                omega
          | succ place =>
              have shift : (levelFrom (depth + parenWeight c) rest).map (· + 1) =
                  some (place + 1) ↔ levelFrom (depth + parenWeight c) rest = some place := by
                simp
              rw [shift, induction (.inl still), List.length_cons, Nat.add_lt_add_iff_right]
              refine and_congr_right fun _ => and_congr_right fun _ => ?_
              constructor
              · intro before k within
                cases k with
                | zero =>
                    rw [empty]
                    omega
                | succ k => exact before k (by omega)
              · intro before k within
                exact before (k + 1) (by omega)

theorem level_from_opened {masked : List Char} {index : Nat} (opened : masked[index]? = some '(')
    (place : Nat) :
    levelFrom 0 (masked.drop index) = some place ↔ IsClosing masked index (place + index) := by
  have head : (masked.drop index).head? = some '(' := by rwa [List.head?_drop]
  rw [level_from_iff (.inr ⟨rfl, head⟩), List.length_drop]
  constructor
  · rintro ⟨within, level, before⟩
    constructor
    · refine ⟨Nat.le_add_left _ _, by omega, ?_⟩
      rw [Nat.add_right_comm, Nat.add_sub_cancel]
      omega
    · rintro k ⟨behind, -, levelToo⟩
      by_contra early
      apply before (k - index) (by omega)
      rw [show k - index + 1 = k + 1 - index by omega]
      omega
  · rintro ⟨⟨-, within, level⟩, least⟩
    rw [Nat.add_right_comm, Nat.add_sub_cancel] at level
    refine ⟨by omega, by omega, ?_⟩
    intro k early levelToo
    have reached : place + index ≤ k + index := by
      apply least
      refine ⟨Nat.le_add_left _ _, by omega, ?_⟩
      rw [Nat.add_right_comm, Nat.add_sub_cancel]
      omega
    omega

end Levels

section Readers

/-- Both readers take a character alike: in code a quote opens a string of the language, and in a
string a quote of its kind closes it, with no backslash before. -/
def TakenAlike (dialect : Dialect) : Mode → Option Char → Char → List Char → Prop
  | .code, _, c, _ => isQuote c = true → c ∈ dialect.quotes
  | .quoted mark long, last, c, rest =>
    (c = mark → last ≠ some '\\' ∧ (long = true → [mark, mark] <+: rest)) ∧
      (c = '\n' → long = false → mark = '`')
  | _, _, _, _ => True

/-- The first `count` characters are taken alike, from a place behind the character `last` on. -/
def AlikeFor (dialect : Dialect) : Nat → Mode → Option Char → List Char → Prop
  | 0, _, _, _ => True
  | _ + 1, _, _, [] => True
  | count + 1, mode, last, c :: rest =>
    TakenAlike dialect mode last c rest ∧
      AlikeFor dialect count (step dialect mode c rest).2 (some c) rest

instance (dialect : Dialect) :
    (mode : Mode) → (last : Option Char) → (c : Char) → (rest : List Char) →
      Decidable (TakenAlike dialect mode last c rest)
  | .code, _, c, _ => inferInstanceAs (Decidable (isQuote c = true → c ∈ dialect.quotes))
  | .quoted mark long, last, c, rest => inferInstanceAs (Decidable
      ((c = mark → last ≠ some '\\' ∧ (long = true → [mark, mark] <+: rest)) ∧
        (c = '\n' → long = false → mark = '`')))
  | .lineComment, _, _, _ => isTrue trivial
  | .blockOpen, _, _, _ => isTrue trivial
  | .block, _, _, _ => isTrue trivial
  | .blockClose, _, _, _ => isTrue trivial
  | .opening _ _, _, _, _ => isTrue trivial
  | .escaped _ _, _, _, _ => isTrue trivial
  | .closing _, _, _, _ => isTrue trivial

instance decidableAlikeFor (dialect : Dialect) :
    (count : Nat) → (mode : Mode) → (last : Option Char) → (text : List Char) →
      Decidable (AlikeFor dialect count mode last text)
  | 0, _, _, _ => isTrue trivial
  | _ + 1, _, _, [] => isTrue trivial
  | count + 1, mode, last, c :: rest =>
    have := decidableAlikeFor dialect count (step dialect mode c rest).2 (some c) rest
    inferInstanceAs (Decidable (TakenAlike dialect mode last c rest ∧
      AlikeFor dialect count (step dialect mode c rest).2 (some c) rest))

/-- The place of the masking reader in front of `text`, against the open quote and the last
character of the other one. Inside a long delimiter that one sees an empty string and half of
another. -/
def Coupled : Mode → Option Char → Option Char → Option Char → List Char → Prop
  | .opening mark left, quote, last, _, text =>
    isQuote mark = true ∧
      ((left = 2 ∧ quote = some mark ∧ last = some mark ∧ [mark, mark] <+: text) ∨
        (left = 1 ∧ quote = none ∧ [mark] <+: text))
  | .quoted mark _, quote, last, before, _ =>
    isQuote mark = true ∧ quote = some mark ∧ last = before
  | .escaped mark _, quote, last, _, _ =>
    isQuote mark = true ∧ quote = some mark ∧ last = some '\\'
  | .closing left, quote, last, _, text =>
    ∃ mark, isQuote mark = true ∧
      ((left = 2 ∧ quote = none ∧ [mark, mark] <+: text) ∨
        (left = 1 ∧ quote = some mark ∧ last = some mark ∧ [mark] <+: text))
  | _, quote, _, _, _ => quote = none

variable {language : Option Language} {quote last before : Option Char} {c : Char}
  {rest : List Char}

theorem level_step_plain (depth : Int) (opens : c ≠ '(') (closes : c ≠ ')') :
    levelStep depth c = some depth := by
  unfold levelStep
  rw [if_neg opens, if_neg closes]

theorem quote_no_paren (quoted : isQuote c = true) : c ≠ '(' ∧ c ≠ ')' ∧ c ≠ '\\' := by
  refine ⟨?_, ?_, ?_⟩ <;>
  · rintro rfl
    cases quoted

theorem level_step_quote (depth : Int) (quoted : isQuote c = true) :
    levelStep depth c = some depth :=
  level_step_plain depth (quote_no_paren quoted).1 (quote_no_paren quoted).2.1

theorem level_step_blank_out (depth : Int) (c : Char) :
    levelStep depth (blankOut c) = some depth := by
  have blank := blank_out_blank c
  apply level_step_plain
  · exact ne_of_blank blank (by decide)
  · exact ne_of_blank blank (by decide)

theorem bracket_step_outside (depth : Int) (last : Option Char) (unquoted : isQuote c = false) :
    bracketStep depth none last c = (levelStep depth c).map (·, none) := by
  unfold bracketStep levelStep
  simp only [unquoted, Bool.false_eq_true, if_false, beq_iff_eq]
  split
  · rfl
  · split
    · split <;> rfl
    · rfl

theorem bracket_step_opens (depth : Int) (last : Option Char) (quoted : isQuote c = true) :
    bracketStep depth none last c = (levelStep depth c).map (·, some c) := by
  rw [level_step_quote depth quoted]
  unfold bracketStep
  simp only [quoted, if_true]
  rfl

theorem bracket_step_closes (depth : Int) (quoted : isQuote c = true)
    (unescaped : last ≠ some '\\') :
    bracketStep depth (some c) last c = (levelStep depth c).map (·, none) := by
  rw [level_step_quote depth quoted]
  simp [bracketStep, unescaped]

theorem bracket_step_stays (depth : Int) {mark : Char} (open' : c ≠ mark ∨ last = some '\\') :
    bracketStep depth (some mark) last c =
      (levelStep depth (blankOut c)).map (·, some mark) := by
  rw [level_step_blank_out]
  rcases open' with other | escaped
  · simp [bracketStep, other]
  · simp [bracketStep, escaped]

/-- After one character of both texts the readers still go together. -/
def StaysCoupled (depth : Int) (quote last : Option Char) (c : Char) (rest : List Char)
    (read : Cover × Mode) : Prop :=
  ∃ open', Coupled read.2 open' (some (paint false read.1 c)) (some c) rest ∧
    bracketStep depth quote last (paint false read.1 c) =
      (levelStep depth (paint true read.1 c)).map (·, open')

theorem comment_coupled (depth : Int) {next : Mode}
    (outside : ∀ last before, Coupled next none last before rest) :
    StaysCoupled depth none last c rest (.comment, next) := by
  refine ⟨none, outside _ _, ?_⟩
  change bracketStep depth none last (blankOut c) = (levelStep depth (blankOut c)).map (·, none)
  have unquoted : ∀ mark, (none : Option Char) = some mark → isQuote mark = true := nofun
  rw [level_step_blank_out, bracket_step_blank unquoted (blank_out_blank c)]
  rfl

theorem code_coupled (depth : Int) (alike : isQuote c = true → c ∈ (Dialect.of language).quotes) :
    StaysCoupled depth none last c rest (step (Dialect.of language) .code c rest) := by
  rw [step_code]
  split
  · exact comment_coupled depth fun _ _ => rfl
  · split
    · exact comment_coupled depth fun _ _ => rfl
    · split
      · next listed =>
          have quoted := quotes_are_quotes (List.contains_iff_mem.mp listed)
          split
          · next long =>
              simp only [Bool.and_eq_true, List.isPrefixOf_iff_prefix] at long
              exact ⟨some c, ⟨quoted, .inl ⟨rfl, rfl, rfl, long.2⟩⟩,
                bracket_step_opens depth last quoted⟩
          · exact ⟨some c, ⟨quoted, rfl, rfl⟩, bracket_step_opens depth last quoted⟩
      · next unlisted =>
          have unquoted : isQuote c = false := by
            by_contra quoted
            rw [Bool.not_eq_false] at quoted
            exact unlisted (List.contains_iff_mem.mpr (alike quoted))
          exact ⟨none, rfl, bracket_step_outside depth last unquoted⟩

theorem string_coupled (depth : Int) {mark : Char} {long : Bool} (quoted : isQuote mark = true)
    (alike : TakenAlike (Dialect.of language) (.quoted mark long) last c rest) :
    StaysCoupled depth (some mark) last c rest
      (step (Dialect.of language) (.quoted mark long) c rest) := by
  obtain ⟨ends, lines⟩ := alike
  have backslash : '\\' ≠ mark := (quote_no_paren quoted).2.2.symm
  by_cases escape : c = '\\'
  · subst escape
    exact ⟨some mark, ⟨quoted, rfl, rfl⟩, bracket_step_stays depth (.inl backslash)⟩
  · by_cases same : c = mark
    · subst same
      obtain ⟨unescaped, triple⟩ := ends rfl
      have closes := bracket_step_closes depth quoted unescaped
      cases long with
      | false =>
          have closed : step (Dialect.of language) (.quoted c false) c rest = (.code, .code) := by
            simp [step, escape]
          rw [closed]
          exact ⟨none, rfl, closes⟩
      | true =>
          have there := triple rfl
          have closed : step (Dialect.of language) (.quoted c true) c rest =
              (.code, .closing 2) := by
            simp [step, escape, List.isPrefixOf_iff_prefix.mpr there]
          rw [closed]
          exact ⟨none, ⟨c, quoted, .inl ⟨rfl, rfl, there⟩⟩, closes⟩
    · have stays : step (Dialect.of language) (.quoted mark long) c rest =
          (.literal, .quoted mark long) := by
        cases long with
        | true => simp [step, escape, same]
        | false =>
            by_cases line : c = '\n'
            · obtain rfl := lines line rfl
              simp [step, escape, same]
            · simp [step, escape, same, line]
      rw [stays]
      exact ⟨some mark, ⟨quoted, rfl, rfl⟩, bracket_step_stays depth (.inl same)⟩

theorem step_coupled (depth : Int) {mode : Mode}
    (coupled : Coupled mode quote last before (c :: rest))
    (alike : TakenAlike (Dialect.of language) mode before c rest) :
    StaysCoupled depth quote last c rest (step (Dialect.of language) mode c rest) := by
  cases mode with
  | code =>
      obtain rfl := coupled
      exact code_coupled depth alike
  | lineComment =>
      obtain rfl := coupled
      simp only [step]
      split
      · next line =>
          obtain rfl := beq_iff_eq.mp line
          exact ⟨none, rfl, bracket_step_outside depth last rfl⟩
      · exact comment_coupled depth fun _ _ => rfl
  | blockOpen =>
      obtain rfl := coupled
      exact comment_coupled depth fun _ _ => rfl
  | block =>
      obtain rfl := coupled
      simp only [step]
      split
      · exact comment_coupled depth fun _ _ => rfl
      · exact comment_coupled depth fun _ _ => rfl
  | blockClose =>
      obtain rfl := coupled
      exact comment_coupled depth fun _ _ => rfl
  | opening mark left =>
      obtain ⟨quoted, ⟨rfl, rfl, rfl, there⟩ | ⟨rfl, rfl, there⟩⟩ := coupled
      · obtain ⟨rfl, behind⟩ := List.cons_prefix_cons.mp there
        have unescaped : some mark ≠ some '\\' := fun same =>
          (quote_no_paren quoted).2.2 (Option.some.inj same)
        exact ⟨none, ⟨quoted, .inr ⟨rfl, rfl, behind⟩⟩,
          bracket_step_closes depth quoted unescaped⟩
      · obtain ⟨rfl, -⟩ := List.cons_prefix_cons.mp there
        exact ⟨some mark, ⟨quoted, rfl, rfl⟩, bracket_step_opens depth last quoted⟩
  | quoted mark long =>
      obtain ⟨quoted, rfl, rfl⟩ := coupled
      exact string_coupled depth quoted alike
  | escaped mark long =>
      obtain ⟨quoted, rfl, rfl⟩ := coupled
      exact ⟨some mark, ⟨quoted, rfl, rfl⟩, bracket_step_stays depth (.inr rfl)⟩
  | closing left =>
      obtain ⟨mark, quoted, ⟨rfl, rfl, there⟩ | ⟨rfl, rfl, rfl, there⟩⟩ := coupled
      · obtain ⟨rfl, behind⟩ := List.cons_prefix_cons.mp there
        exact ⟨some mark, ⟨mark, quoted, .inr ⟨rfl, rfl, rfl, behind⟩⟩,
          bracket_step_opens depth last quoted⟩
      · obtain ⟨rfl, -⟩ := List.cons_prefix_cons.mp there
        have unescaped : some mark ≠ some '\\' := fun same =>
          (quote_no_paren quoted).2.2 (Option.some.inj same)
        exact ⟨none, rfl, bracket_step_closes depth quoted unescaped⟩

theorem balanced_from_coupled {count : Nat} {mode : Mode} {text : List Char} {depth : Int}
    (coupled : Coupled mode quote last before text)
    (alike : AlikeFor (Dialect.of language) count mode before text) {place : Nat}
    (within : place < count) :
    balancedFrom depth quote last (maskFrom (Dialect.of language) false mode text) = some place ↔
      levelFrom depth (maskFrom (Dialect.of language) true mode text) = some place := by
  induction text generalizing count mode depth quote last before place with
  | nil => rfl
  | cons c rest induction =>
      cases count with
      | zero => exact absurd within (Nat.not_lt_zero place)
      | succ count =>
          obtain ⟨here, later⟩ := alike
          obtain ⟨open', coupledNext, stepped⟩ := step_coupled depth coupled here
          rw [mask_from_cons, mask_from_cons, balanced_from_cons, levelFrom, stepped]
          cases levelStep depth (paint true (step (Dialect.of language) mode c rest).1 c) with
          | none => rfl
          | some deeper =>
              simp only [Option.map_some]
              cases place with
              | zero => simp
              | succ place =>
                  have same := @induction _ _ _ count _ deeper coupledNext later place (by omega)
                  simpa using same

end Readers

section Brackets

variable {depth : Int} {quote last : Option Char} {text : List Char} {place : Nat}

/-- The search ends where it finds the parenthesis. -/
theorem balanced_from_take {other : List Char}
    (found : balancedFrom depth quote last text = some place)
    (same : text.take (place + 1) = other.take (place + 1)) :
    balancedFrom depth quote last other = some place := by
  induction text generalizing depth quote last place other with
  | nil => cases found
  | cons c text induction =>
      obtain ⟨rest, rfl, later⟩ := begins_with_head same
      rw [balanced_from_cons] at found ⊢
      cases stepped : bracketStep depth quote last c with
      | none => rwa [stepped] at found
      | some next =>
          rw [stepped] at found
          obtain ⟨further, there, rfl⟩ := Option.map_eq_some_iff.mp found
          exact Option.map_eq_some_iff.mpr ⟨further, induction there later, rfl⟩

theorem balanced_from_lt (found : balancedFrom depth quote last text = some place) :
    place < text.length := by
  induction text generalizing depth quote last place with
  | nil => cases found
  | cons c text induction =>
      rw [balanced_from_cons] at found
      cases stepped : bracketStep depth quote last c with
      | none =>
          rw [stepped] at found
          cases found
          exact Nat.zero_lt_succ _
      | some next =>
          rw [stepped] at found
          obtain ⟨further, there, rfl⟩ := Option.map_eq_some_iff.mp found
          exact Nat.succ_lt_succ (induction there)

theorem closing_paren_ge {index : Nat} (found : closingParen text index = some place) :
    index ≤ place := by
  obtain ⟨further, -, rfl⟩ := Option.map_eq_some_iff.mp found
  exact Nat.le_add_left index further

theorem closing_paren_lt {index : Nat} (found : closingParen text index = some place) :
    place < text.length := by
  obtain ⟨further, there, rfl⟩ := Option.map_eq_some_iff.mp found
  have within := balanced_from_lt there
  rw [List.length_drop] at within
  omega

end Brackets

section Place

theorem paint_eq_paren {cover : Cover} {c : Char} (shown : paint true cover c = '(') :
    cover = .code ∧ c = '(' := by
  have hidden : blankOut c ≠ '(' := ne_of_blank (blank_out_blank c) (by decide)
  cases cover with
  | code => exact ⟨rfl, shown⟩
  | comment => exact absurd shown hidden
  | literal => exact absurd shown hidden

/-- A parenthesis that shows in the masked text is read as code. -/
theorem mode_at_paren {language : Option Language} {mode : Mode} {rest : List Char}
    (ready : Ready mode ('(' :: rest))
    (shown : (step (Dialect.of language) mode '(' rest).1 = .code) : mode = .code := by
  have unquoted {mark : Char} (quoted : isQuote mark = true) : mark ≠ '(' :=
    (quote_no_paren quoted).1
  cases mode with
  | code => rfl
  | lineComment => cases shown
  | blockOpen => cases shown
  | block => cases shown
  | blockClose => cases shown
  | opening mark left =>
      obtain ⟨quoted, some', there⟩ := ready
      exact absurd (announced_cons some' there).1 (unquoted quoted)
  | quoted mark long =>
      have other : '(' ≠ mark := (unquoted ready).symm
      cases long with
      | true => simp [step, other] at shown
      | false => simp [step, other] at shown
  | escaped mark long => cases shown
  | closing left =>
      obtain ⟨some', mark, quoted, there⟩ := ready
      exact absurd (announced_cons some' there).1 (unquoted quoted)

theorem mask_from_paren {language : Option Language} {mode : Mode} {text : List Char} {index : Nat}
    (ready : Ready mode text)
    (opened : (maskFrom (Dialect.of language) true mode text)[index]? = some '(')
    (hideStrings : Bool) :
    (maskFrom (Dialect.of language) hideStrings mode text).drop index =
      maskFrom (Dialect.of language) hideStrings .code (text.drop index) := by
  induction index generalizing mode text with
  | zero =>
      cases text with
      | nil => cases opened
      | cons c rest =>
          obtain ⟨code, rfl⟩ := paint_eq_paren (Option.some.inj opened)
          obtain rfl := mode_at_paren ready code
          rfl
  | succ index induction =>
      cases text with
      | nil => cases opened
      | cons c rest => exact induction (ready_next language ready) opened

end Place

/-- The closing parenthesis is the first place up to which the masked text closes what it opens, as
far as both readers take all characters from the opening one on alike. -/
theorem closing_paren_is_first_level {language : Option Language} {text : List Char}
    {index count : Nat} (opened : (mask language true text)[index]? = some '(')
    (alike : AlikeFor (Dialect.of language) count .code none (text.drop index)) :
    (∀ place < index + count, closingParen (stripComments language text) index = some place ↔
      IsClosing (mask language true text) index place) ∧
    (text.length ≤ index + count → (closingParen (stripComments language text) index = none ↔
      ∀ place, ¬IsClosing (mask language true text) index place)) := by
  have ready : Ready .code text := trivial
  have code : (stripComments language text).drop index =
      maskFrom (Dialect.of language) false .code (text.drop index) :=
    mask_from_paren ready opened false
  have masked : (mask language true text).drop index =
      maskFrom (Dialect.of language) true .code (text.drop index) :=
    mask_from_paren ready opened true
  have coupled : Coupled .code none none none (text.drop index) := rfl
  have near (place : Nat) (within : place < index + count) :
      closingParen (stripComments language text) index = some place ↔
        IsClosing (mask language true text) index place := by
    unfold closingParen
    constructor
    · intro found
      obtain ⟨further, there, rfl⟩ := Option.map_eq_some_iff.mp found
      rw [code, balanced_from_coupled coupled alike (by omega), ← masked] at there
      exact (level_from_opened opened further).mp there
    · intro first
      obtain ⟨further, rfl⟩ := Nat.exists_eq_add_of_le' first.1.1
      have there := (level_from_opened opened further).mpr first
      rw [masked, ← balanced_from_coupled coupled alike (by omega), ← code] at there
      rw [there]
      rfl
  refine ⟨near, fun whole => ?_⟩
  constructor
  · intro missed place first
    have within := first.1.2.1
    rw [mask_length] at within
    rw [← near place (by omega), missed] at first
    cases first
  · intro none
    by_contra found
    obtain ⟨place, there⟩ := Option.ne_none_iff_exists'.mp found
    have within := closing_paren_lt there
    rw [stripComments, mask_length] at within
    exact none place ((near place (by omega)).mp there)

/-- Behind a long string with a parenthesis, an escaped quote and a parenthesis in a comment. -/
theorem closing_paren_of_python_call :
    let text := "f('''a)''', \"\\\"(\", # )\n g())".toList
    (mask (some .python) true text)[1]? = some '(' ∧
      AlikeFor (Dialect.of (some .python)) text.length .code none (text.drop 1) ∧
      closingParen (stripComments (some .python) text) 1 = some 27 ∧
      IsClosing (mask (some .python) true text) 1 27 := by
  intro text
  have opened : (mask (some .python) true text)[1]? = some '(' := by decide +kernel
  have alike : AlikeFor (Dialect.of (some .python)) text.length .code none (text.drop 1) := by
    decide +kernel
  have found : closingParen (stripComments (some .python) text) 1 = some 27 := by decide +kernel
  have first := (closing_paren_is_first_level opened alike).1 27 (by decide)
  exact ⟨opened, alike, found, first.mp found⟩

/-- Every string is closed by its own delimiter, from the given place on. -/
def stringsClosed (dialect : Dialect) : Mode → List Char → Bool
  | .opening _ _, [] => false
  | .quoted _ _, [] => false
  | .escaped _ _, [] => false
  | _, [] => true
  | .quoted mark false, c :: rest =>
    !(c == '\n' && mark != '`') &&
      stringsClosed dialect (step dialect (.quoted mark false) c rest).2 rest
  | mode, c :: rest => stringsClosed dialect (step dialect mode c rest).2 rest

/-- All strings are closed, and the masked text closes the parenthesis at `index` at `place`, but
another place or none is found. -/
structure Misread (language : Option Language) (text : List Char) (index place : Nat)
    (answer : Option Nat) : Prop where
  closed : stringsClosed (Dialect.of language) .code text = true
  opened : (mask language true text)[index]? = some '('
  first : IsClosing (mask language true text) index place
  found : closingParen (stripComments language text) index = answer
  differs : answer ≠ some place

/-- An escaped backslash in front of a closing quote, a lifetime, and a quote in a long string. -/
theorem quotes_taken_differently :
    Misread (some .typescript) "f(\"\\\\\")".toList 1 6 none ∧
      Misread (some .rust) "f(x: &'a str)".toList 1 12 none ∧
      Misread (some .python) "f(\"\"\"a\"b)\"\"\")".toList 1 12 (some 8) := by
  have backslash := (@level_from_opened (mask (some .typescript) true "f(\"\\\\\")".toList) 1
    (by decide +kernel) 5).mp (by decide +kernel)
  have lifetime := (@level_from_opened (mask (some .rust) true "f(x: &'a str)".toList) 1
    (by decide +kernel) 11).mp (by decide +kernel)
  have inner := (@level_from_opened (mask (some .python) true "f(\"\"\"a\"b)\"\"\")".toList) 1
    (by decide +kernel) 11).mp (by decide +kernel)
  refine ⟨?_, ?_, ?_⟩
  · exact ⟨by decide +kernel, by decide +kernel, backslash, by decide +kernel, by decide⟩
  · exact ⟨by decide +kernel, by decide +kernel, lifetime, by decide +kernel, by decide⟩
  · exact ⟨by decide +kernel, by decide +kernel, inner, by decide +kernel, by decide⟩

end EditImpact.Source
