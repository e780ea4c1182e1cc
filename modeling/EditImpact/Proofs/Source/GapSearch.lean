import EditImpact.Proofs.Source.Gaps
import EditImpact.Proofs.Source.Levels
import EditImpact.Proofs.Source.Masking

/-!
# Searching across a gap

Readers that look for characters outside brackets and strings find the same places in the narrow and
in the wide text of a gap, if they never want a blank.
-/

namespace EditImpact.Source

open Text

set_option autoImplicit false

namespace Place

/-- The open quote, if there is one, is a quote. -/
def Quoting (place : Place) : Prop := ∀ quote, place.quote = some quote → isQuote quote = true

theorem quoting_start : start.Quoting := nofun

theorem quoting_next {place : Place} (quoting : place.Quoting) (c : Char) :
    (place.next c).Quoting := by
  intro quote present
  simp only [next, quoteAfter] at present
  split at present
  · next open' held =>
      split at present
      · cases present
      · cases present
        exact quoting _ held
  · split at present
    · next quoted =>
        cases present
        exact quoted
    · cases present

theorem next_blank {place : Place} (quoting : place.Quoting) {c : Char} (blank : isBlank c = true) :
    place.next c = { place with last := some c } := by
  obtain ⟨quote, opener⟩ := blank_plain blank
  have other (d : Char) (filled : isBlank d = false) : c ≠ d := ne_of_blank blank filled
  have closing : closes place.last c = false := by
    simp [closes, other ')' (by decide), other ']' (by decide), other '\x7d' (by decide),
      other '>' (by decide)]
  have depth : (place.next c).depth = place.depth := by simp [next, quote, opener, closing]
  have held : (place.next c).quote = place.quote := by
    simp only [next, quoteAfter]
    cases open' : place.quote with
    | none => simp [quote]
    | some mark =>
        have differs : c ≠ mark := other mark (quote_filled (quoting mark open'))
        simp [differs]
  obtain ⟨first, second, third⟩ := place
  simp only [next] at depth held ⊢
  rw [depth, held]

theorem next_gap {place : Place} (quoting : place.Quoting) {added blank : Char}
    (loose : Loose added blank) : (place.next added).next blank = place.next blank := by
  rw [next_blank (quoting_next quoting added) loose.blank_blank,
    next_blank quoting loose.added_blank, next_blank quoting loose.blank_blank]

end Place

/-- A test that no blank passes and that does not look across blanks. -/
structure Wanted.Steady (wanted : Wanted) : Prop where
  filled : ∀ last c rest, isBlank c = true → wanted last c rest = false
  near : ∀ last c before {blank added : Char} rest, isBlank blank = true → isBlank added = true →
    wanted last c (before ++ blank :: rest) = wanted last c (before ++ added :: blank :: rest)

theorem find_from_gap {wanted : Wanted} (steady : wanted.Steady) {added blank : Char}
    (loose : Loose added blank) (after before : List Char) {place : Place}
    (quoting : place.Quoting) :
    findFrom wanted place (before ++ added :: blank :: after) =
        (findFrom wanted place (before ++ blank :: after)).map (shiftAt before.length) ∧
      findFrom wanted place (before ++ blank :: after) ≠ some before.length := by
  induction before generalizing place with
  | nil =>
      have spread := steady.filled place.last added (blank :: after) loose.added_blank
      have own (last : Option Char) := steady.filled last blank after loose.blank_blank
      simp only [List.nil_append, findFrom, spread, own, Bool.and_false, Bool.false_eq_true,
        if_false, Place.next_gap quoting loose, Option.map_map, List.length_nil]
      refine ⟨congrArg (Option.map · _) (funext fun index => ?_), ?_⟩
      · simp [shiftAt]
      · cases findFrom wanted (place.next blank) after <;> simp
  | cons c before induction =>
      obtain ⟨same, other⟩ := induction (Place.quoting_next quoting c)
      simp only [List.cons_append, findFrom,
        steady.near place.last c before after loose.blank_blank loose.added_blank]
      split
      · exact ⟨rfl, by simp⟩
      · rw [same, Option.map_map, Option.map_map]
        refine ⟨congrArg (Option.map · _) (funext fun index => ?_), ?_⟩
        · exact (shift_at_succ before.length index).symm
        · intro found
          obtain ⟨index, there, next⟩ := Option.map_eq_some_iff.mp found
          exact other (by rw [there, Nat.succ.inj next])

theorem find_top_gap {wanted : Wanted} (steady : wanted.Steady) (gap : Gap) :
    findTop wanted gap.wide = (findTop wanted gap.narrow).map gap.shift ∧
      findTop wanted gap.narrow ≠ some gap.before.length :=
  find_from_gap steady gap.loose gap.after gap.before Place.quoting_start

theorem take_top_alike {wanted : Wanted} (steady : wanted.Steady) {text wide : List Char}
    (alike : Alike text wide) : Alike (takeTop wanted text) (takeTop wanted wide) :=
  alike.map fun gap => by
    obtain ⟨same, -⟩ := find_top_gap steady gap
    unfold takeTop
    rw [same]
    cases findTop wanted gap.narrow with
    | none => exact .wider gap
    | some index => exact take_alike gap index

section Steady

theorem head_any_gap (test : Char → Bool) (before rest : List Char) {blank added : Char}
    (same : test blank = test added) :
    (before ++ blank :: rest).head?.any test =
      (before ++ added :: blank :: rest).head?.any test := by
  cases before with
  | nil => exact same
  | cons c before => rfl

theorem steady_any_of {chars : List Char} (solid : Solid chars) : Wanted.Steady (isAnyOf chars) where
  filled last c rest blank := by
    have other : c ∉ chars := fun member => ne_of_blank blank (solid c member) rfl
    simp [isAnyOf, other]
  near last c before blank added rest _ _ := rfl

theorem steady_assign : Wanted.Steady isAssign where
  filled last c rest blank := by
    have other : c ≠ '=' := ne_of_blank blank (by decide)
    simp [isAssign, other]
  near last c before blank added rest there spread := by
    have passes {d : Char} (blank : isBlank d = true) : (d != '=' && d != '>') = true := by
      rw [Bool.and_eq_true, bne_iff_ne, bne_iff_ne]
      exact ⟨ne_of_blank blank (by decide), ne_of_blank blank (by decide)⟩
    have same := head_any_gap (fun after => after != '=' && after != '>') before rest
      ((passes there).trans (passes spread).symm)
    simp only [isAssign, same]

theorem steady_colon : Wanted.Steady isColon where
  filled last c rest blank := by
    have other : c ≠ ':' := ne_of_blank blank (by decide)
    simp [isColon, other]
  near last c before blank added rest there spread := by
    have passes {d : Char} (blank : isBlank d = true) : (some d != some ':') = true := by
      rw [bne_iff_ne]
      exact fun same => ne_of_blank blank (by decide) (Option.some.inj same)
    cases before with
    | nil =>
        change (c == ':' && some blank != some ':') = (c == ':' && some added != some ':')
        rw [passes there, passes spread]
    | cons d before => rfl

end Steady

theorem parts_alike {wanted : Wanted} (steady : wanted.Steady) {text wide : List Char}
    (alike : Alike text wide) :
    Alike (takeTop wanted text) (takeTop wanted wide) ∧
      OptionAlike ((findTop wanted text).map fun index => text.drop (index + 1))
        ((findTop wanted wide).map fun index => wide.drop (index + 1)) := by
  refine ⟨take_top_alike steady alike, ?_⟩
  cases alike with
  | same text =>
      cases findTop wanted text with
      | none => exact .none
      | some index => exact .some (.same _)
  | wider gap =>
      obtain ⟨same, other⟩ := find_top_gap steady gap
      rw [same]
      cases found : findTop wanted gap.narrow with
      | none => exact .none
      | some index =>
          have behind : gap.shift (index + 1) = gap.shift index + 1 := by
            have apart : index ≠ gap.before.length := fun same => other (by rw [found, same])
            unfold Gap.shift shiftAt
            split <;> split <;> omega
          simp only [Option.map_some, ← behind]
          exact .some (drop_alike gap (index + 1))

section Pieces

/-- A gap goes to one of the pieces between commas. -/
theorem cut_from_gap {added blank : Char} (loose : Loose added blank) (after before : List Char)
    {place : Place} (quoting : place.Quoting) :
    ∃ early own rest late, own <:+ before ∧ (early = [] → own = before) ∧
      cutFrom ',' place (before ++ blank :: after) = early ++ (own ++ blank :: rest) :: late ∧
      cutFrom ',' place (before ++ added :: blank :: after) =
        early ++ (own ++ added :: blank :: rest) :: late := by
  induction before generalizing place with
  | nil =>
      obtain ⟨piece, pieces, cut⟩ := cut_eq_cons (place.next blank) after
      have first : blank ≠ ',' := ne_of_blank loose.blank_blank comma_not_blank
      have second : added ≠ ',' := ne_of_blank loose.added_blank comma_not_blank
      refine ⟨[], [], piece, pieces, List.suffix_refl [], fun _ => rfl, ?_, ?_⟩
      · simp [cutFrom, first, cut]
      · simp [cutFrom, first, second, Place.next_gap quoting loose, cut]
  | cons c before induction =>
      have longer {own : List Char} (suffix : own <:+ before) : own <:+ c :: before :=
        suffix.trans (List.suffix_cons c before)
      simp only [List.cons_append, cutFrom]
      -- behind a comma the gap is in a later piece, before which `early` is not empty
      split
      · have quotingToo : Place.Quoting { place with last := some c } := quoting
        obtain ⟨early, own, rest, late, suffix, -, narrow, wide⟩ := induction quotingToo
        exact ⟨[] :: early, own, rest, late, longer suffix,
          fun empty => absurd empty (List.cons_ne_nil _ _), by rw [narrow]; rfl, by rw [wide]; rfl⟩
      · obtain ⟨early, own, rest, late, suffix, whole, narrow, wide⟩ :=
          induction (Place.quoting_next quoting c)
        rw [narrow, wide]
        cases early with
        | nil =>
            rw [whole rfl]
            exact ⟨[], c :: before, rest, late, List.suffix_refl _, fun _ => rfl, rfl, rfl⟩
        | cons first early =>
            exact ⟨(c :: first) :: early, own, rest, late, longer suffix,
              fun empty => absurd empty (List.cons_ne_nil _ _), rfl, rfl⟩

theorem alike_empty {text wide : List Char} (alike : Alike text wide) :
    text.isEmpty = wide.isEmpty :=
  alike.congr fun gap => by
    unfold Gap.narrow Gap.wide
    cases gap.before <;> rfl

/-- What makes no difference for alike pieces makes none for the pieces of alike texts. -/
theorem split_top_alike {Result : Type} {read : List Char → Result}
    (pieces : ∀ {text wide : List Char}, Alike text wide → read (trim text) = read (trim wide))
    {text wide : List Char} (alike : Alike text wide) :
    (splitTop ',' text).map read = (splitTop ',' wide).map read := by
  cases alike with
  | same text => rfl
  | wider gap =>
      obtain ⟨early, own, rest, late, suffix, -, narrow, wide⟩ :=
        cut_from_gap gap.loose gap.after gap.before Place.quoting_start
      have piece : Alike (own ++ gap.blank :: rest) (own ++ gap.added :: gap.blank :: rest) :=
        .wider ⟨own, gap.added, gap.blank, rest, gap.loose, gap.free.suffix suffix⟩
      have empty := alike_empty piece.trim
      simp only [splitTop, Gap.narrow, Gap.wide, narrow, wide, List.map_append, List.map_cons,
        List.filter_append, List.filter_cons, empty]
      split <;> simp [pieces piece]

end Pieces

section Brackets

/-- What one character does to the open parentheses and the open quote; nothing, when it is the
parenthesis looked for. -/
def bracketStep (depth : Int) (quote last : Option Char) (c : Char) :
    Option (Int × Option Char) :=
  match quote with
  | some open' => some (depth, if c == open' && last != some '\\' then none else some open')
  | none =>
    if isQuote c then some (depth, some c)
    else if c == '(' then some (depth + 1, none)
    else if c == ')' then if depth == 1 then none else some (depth - 1, none)
    else some (depth, none)

theorem balanced_from_cons (depth : Int) (quote last : Option Char) (c : Char) (rest : List Char) :
    balancedFrom depth quote last (c :: rest) =
      match bracketStep depth quote last c with
      | none => some 0
      | some (deeper, open') => (balancedFrom deeper open' (some c) rest).map (· + 1) := by
  cases quote with
  | some mark =>
      rw [balancedFrom]
      rfl
  | none =>
      rw [balancedFrom]
      simp only [bracketStep]
      split
      · rfl
      · split
        · rfl
        · split
          · split <;> rfl
          · rfl

theorem bracket_step_quoting {depth deeper : Int} {quote last open' : Option Char} {c : Char}
    (quoting : ∀ mark, quote = some mark → isQuote mark = true)
    (stepped : bracketStep depth quote last c = some (deeper, open')) :
    ∀ mark, open' = some mark → isQuote mark = true := by
  rintro mark rfl
  unfold bracketStep at stepped
  cases quote with
  | some held =>
      simp only [Option.some.injEq, Prod.mk.injEq] at stepped
      obtain ⟨-, stays⟩ := stepped
      split at stays
      · cases stays
      · cases stays
        exact quoting _ rfl
  | none =>
      simp only at stepped
      split at stepped
      · next quoted =>
          cases stepped
          exact quoted
      · split at stepped
        · cases stepped
        · split at stepped
          · split at stepped <;> cases stepped
          · cases stepped

theorem bracket_step_blank {depth : Int} {quote last : Option Char} {c : Char}
    (quoting : ∀ mark, quote = some mark → isQuote mark = true) (blank : isBlank c = true) :
    bracketStep depth quote last c = some (depth, quote) := by
  unfold bracketStep
  cases quote with
  | some mark =>
      have other : c ≠ mark := ne_of_blank blank (quote_filled (quoting mark rfl))
      simp [other]
  | none =>
      have opens : c ≠ '(' := ne_of_blank blank (by decide)
      have closes : c ≠ ')' := ne_of_blank blank (by decide)
      simp [(blank_plain blank).1, opens, closes]

/-- The closing parenthesis is found across a gap. -/
theorem balanced_from_gap {added blank : Char} (loose : Loose added blank)
    (after before : List Char) {depth : Int} {quote last : Option Char}
    (quoting : ∀ mark, quote = some mark → isQuote mark = true) :
    balancedFrom depth quote last (before ++ added :: blank :: after) =
        (balancedFrom depth quote last (before ++ blank :: after)).map (shiftAt before.length) ∧
      balancedFrom depth quote last (before ++ blank :: after) ≠ some before.length := by
  induction before generalizing depth quote last with
  | nil =>
      simp only [List.nil_append, balanced_from_cons, bracket_step_blank quoting loose.added_blank,
        bracket_step_blank quoting loose.blank_blank, Option.map_map, List.length_nil]
      refine ⟨congrArg (Option.map · _) (funext fun index => ?_), ?_⟩
      · simp [shiftAt]
      · cases balancedFrom depth quote (some blank) after <;> simp
  | cons c before induction =>
      simp only [List.cons_append, balanced_from_cons]
      cases stepped : bracketStep depth quote last c with
      | none => exact ⟨rfl, by simp⟩
      | some next =>
          obtain ⟨deeper, open'⟩ := next
          obtain ⟨same, other⟩ := @induction deeper open' (some c)
            (bracket_step_quoting quoting stepped)
          simp only [same, Option.map_map]
          refine ⟨congrArg (Option.map · _) (funext fun index => ?_), ?_⟩
          · exact (shift_at_succ before.length index).symm
          · intro found
            obtain ⟨index, there, next⟩ := Option.map_eq_some_iff.mp found
            exact other (by rw [there, Nat.succ.inj next])

end Brackets

end EditImpact.Source
