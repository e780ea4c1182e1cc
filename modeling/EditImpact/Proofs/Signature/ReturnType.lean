import EditImpact.Signature.Extract
import EditImpact.Proofs.Pattern.Running
import EditImpact.Proofs.Signature.ColonParams
import EditImpact.Proofs.Source.Collapsing

/-!
# What a signature tells of a return type

The return type of a declared function is read up to the first brace, semicolon, newline or function
arrow outside brackets. A type that holds none of these is told exactly, up to blanks; of any other
type the signature tells no more than what stands before the first of them
(`told_apart_iff_visible_parts_differ`).
-/

namespace EditImpact.Signature

open Source Text

set_option autoImplicit false

section Parens

/-- How many parentheses are open after a text, unless it closes one that is not open. -/
def roundDepth : Nat → List Char → Option Nat
  | depth, [] => some depth
  | depth, c :: rest =>
    if c == '(' then roundDepth (depth + 1) rest
    else if c == ')' then if depth = 0 then none else roundDepth (depth - 1) rest
    else roundDepth depth rest

/-- The parenthesis behind a text that closes its own is the one that closes the list. -/
theorem balanced_from_round {text : List Char} (quoteFree : ∀ c ∈ text, isQuote c = false)
    {depth : Nat} (round : roundDepth depth text = some 0) (last : Option Char) (rest : List Char) :
    balancedFrom (depth + 1 : Nat) none last (text ++ ')' :: rest) = some text.length := by
  induction text generalizing depth last with
  | nil =>
      cases round
      rfl
  | cons c text induction =>
      have later {deeper : Nat} (round : roundDepth deeper text = some 0) :
          balancedFrom (deeper + 1 : Nat) none (some c) (text ++ ')' :: rest) = some text.length :=
        induction (fun d member => quoteFree d (List.mem_cons_of_mem c member)) round (some c)
      rw [roundDepth] at round
      rw [List.cons_append, balancedFrom]
      simp only [quoteFree c List.mem_cons_self, Bool.false_eq_true, if_false]
      split at round
      · next opens =>
          rw [if_pos opens]
          exact congrArg (Option.map (· + 1)) (later round)
      · next opens =>
          rw [if_neg opens]
          split at round
          · next closes =>
              split at round
              · cases round
              · next deep =>
                  have inner : ((depth + 1 : Nat) : Int) - 1 = (depth - 1 + 1 : Nat) := by omega
                  have outer : (((depth + 1 : Nat) : Int) == 1) = false := by
                    rw [beq_eq_false_iff_ne]
                    omega
                  rw [if_pos closes, outer, inner]
                  exact congrArg (Option.map (· + 1)) (later round)
          · next closes =>
              rw [if_neg closes]
              exact congrArg (Option.map (· + 1)) (later round)

/-- Parameters as they may be written: no quotes, no comments, and every parenthesis closed. -/
structure PlainParams (language : Option Language) (text : List Char) : Prop where
  quoteFree : ∀ c ∈ text, isQuote c = false
  commentFree : commentFree (Dialect.of language) text = true
  round : roundDepth 0 text = some 0

theorem closing_paren_of_params {params : List Char} {language : Option Language}
    (plain : PlainParams language params) (before after : List Char) :
    closingParen (before ++ '(' :: params ++ ')' :: after) before.length =
      some (before.length + params.length + 1) := by
  have closed := balanced_from_round plain.quoteFree plain.round (some '(') after
  rw [closingParen, List.append_assoc, List.drop_left, List.cons_append, balancedFrom]
  simp only [isQuote, Bool.false_eq_true, if_false, beq_self_eq_true, if_true, Char.reduceBEq,
    Bool.or_self, Int.zero_add]
  change ((balancedFrom 1 none (some '(') _).map _).map _ = _
  rw [show (1 : Int) = (0 + 1 : Nat) from rfl, closed]
  simp only [Option.map_some, Option.some.injEq]
  omega

end Parens

section Header

open Pattern

variable {Result : Type}

theorem blank_set (c : Char) : (⟨[.blank], false, false⟩ : CharSet).contains c = isBlank c := by
  simp [CharSet.contains, CharItem.holds]

/-- Blanks read nothing in front of a character that is not blank. -/
theorem run_blanks_absent {rest : List Char} {c : Char} (head : rest.head? = some c)
    (filled : isBlank c = false) {last : Option Char} {offset : Nat}
    {captured : Option (List Char)} {next : Progress → Option Result} {result : Result}
    (accepted : next ⟨⟨last, rest, offset⟩, captured⟩ = some result) :
    blanks.run ⟨⟨last, rest, offset⟩, captured⟩ next = some result := by
  refine run_many_longest [] (by simp) ?_ accepted
  intro d first
  cases head.symm.trans first
  rw [blank_set, filled]

theorem edge_after_keyword (last : Option Char) (rest : List Char) (offset : Nat) :
    (lastIsWord ⟨"function".toList.getLast?.or last, ' ' :: rest, offset⟩ !=
      nextIsWord ⟨"function".toList.getLast?.or last, ' ' :: rest, offset⟩) = true := by
  change (isWord 'n' != isWord ' ') = true
  decide

theorem edge_before_keyword (rest : List Char) :
    (lastIsWord (Cursor.start ("function".toList ++ rest)) !=
      nextIsWord (Cursor.start ("function".toList ++ rest))) = true := by
  change (false != isWord 'f') = true
  decide

theorem run_function_keyword {rest : List Char} {c : Char} (head : rest.head? = some c)
    (filled : isBlank c = false) (other : c ≠ '*') {last : Option Char} {offset : Nat}
    {captured : Option (List Char)} {next : Progress → Option Result} {result : Result}
    (accepted : next ⟨⟨some ' ', rest, offset + 9⟩, captured⟩ = some result) :
    functionKeyword.run ⟨⟨last, "function".toList ++ ' ' :: rest, offset⟩, captured⟩ next =
      some result := by
  simp only [functionKeyword, run_append, lit, run_chars]
  have space : ∀ d ∈ [' '], (⟨[.blank], false, false⟩ : CharSet).contains d = true := by decide
  rw [run_word_edge (edge_after_keyword last rest _)]
  refine run_many_longest [' '] space ?_ ?_
  · intro d first
    cases head.symm.trans first
    rw [blank_set, filled]
  · have star : rest.head? ≠ some '*' := by
      rw [head]
      exact fun same => other (Option.some.inj same)
    have absent (more : Progress → Option Result) :
        (chars ['*']).run ⟨⟨some ' ', rest, offset + 9⟩, captured⟩ more = none :=
      run_chars_of_head [] star _ _ _ more
    exact (run_opt_absent absent _).trans (run_blanks_absent head filled accepted)

/-- The header of a function declaration reads up to the parenthesis of its parameters. -/
theorem run_declared_header {name : List Char} (named : IsName name) (rest : List Char)
    {next : Progress → Option Result} {result : Result}
    (accepted : next ⟨⟨some '(', rest, 0 + 9 + name.length + 1⟩, none⟩ = some result) :
    (declaredHeader (chars name)).run
      ⟨Cursor.start ("function ".toList ++ name ++ '(' :: rest), none⟩ next = some result := by
  obtain ⟨⟨c, head, filled⟩, -⟩ := named.tight
  have word : name.head? ≠ some '*' := named.head_ne (by decide)
  have first : (name ++ '(' :: rest).head? = some c := by simp [List.head?_append, head]
  have star : c ≠ '*' := fun same => word (same ▸ head)
  have paren : isBlank '(' = false := by decide
  have start : "function ".toList ++ name ++ '(' :: rest =
      "function".toList ++ ' ' :: (name ++ '(' :: rest) := List.append_assoc _ _ _
  simp only [declaredHeader, run_append, start]
  rw [run_word_edge (edge_before_keyword _)]
  refine run_function_keyword first filled star ?_
  rw [run_chars]
  refine run_blanks_absent (c := '(') rfl paren ?_
  have absent (more : Progress → Option Result) : (lit "<" ++ anyBut ">(" ++ lit ">").run
      ⟨⟨name.getLast?.or (some ' '), '(' :: rest, 0 + 9 + name.length⟩, none⟩ more = none := by
    have other : ('(' :: rest).head? ≠ some '<' := by simp
    rw [run_append, run_append]
    exact run_chars_of_head [] other _ _ _ _
  refine (run_opt_absent absent _).trans (run_blanks_absent (c := '(') rfl paren ?_)
  exact (run_chars ['('] rest _ _ _ _).trans accepted

end Header

/-- The declaration of a function, up to the parameters. -/
def declarationHead (name : List Char) : List Char := "function ".toList ++ name ++ ['(']

theorem declaration_head (name : List Char) :
    declarationHead name = "function ".toList ++ name ++ ['('] := rfl

/-- The declaration of a function. -/
def declaration (name params returned : List Char) : List Char :=
  declarationHead name ++ params ++ "): ".toList ++ returned ++ " \x7b \x7d".toList

/-- Where a return type ends. -/
def endsReturn : Wanted := fun last c rest =>
  isAnyOf ['\x7b', ';', '\n'] last c rest || isArrow last c rest

/-- The part of a return type that is read. -/
def visible (returned : List Char) : List Char := takeTop endsReturn returned

/-- A type as it may be written: no quotes and no comments, with every bracket closed. Blanks aside,
it begins neither with a colon nor with an arrow. -/
structure TypeText (language : Option Language) (text : List Char) : Prop where
  quoteFree : ∀ c ∈ text, isQuote c = false
  commentFree : commentFree (Dialect.of language) text = true
  closed : (Place.start.through text).isTop = true
  start : ∀ lead ∈ [[':'], ['-', '>']], ¬lead <+: text.filter (!isBlank ·)

theorem ends_return_near (rest : List Char) (last : Option Char) (c : Char) (text : List Char) :
    endsReturn last c (text ++ ' ' :: rest) = endsReturn last c text := by
  cases text with
  | nil => simp [endsReturn, isArrow, isAnyOf]
  | cons d text => rfl

/-- Of a type in front of a body, with a space on either side, its visible part is read. -/
theorem take_return {returned : List Char} (closed : (Place.start.through returned).isTop = true)
    (rest : List Char) :
    ∃ blanks, AllBlank blanks ∧
      takeTop endsReturn (' ' :: returned ++ ' ' :: '\x7b' :: rest) =
        [' '] ++ visible returned ++ blanks := by
  have ended : Place.start.through returned = Place.top (Place.start.through returned).last :=
    Place.eq_top_of_is_top closed
  have behind (last : Option Char) :
      findFrom endsReturn (Place.top last) (' ' :: '\x7b' :: rest) = some 1 := by
    rfl
  have found : findTop endsReturn (' ' :: returned ++ ' ' :: '\x7b' :: rest) =
      ((findTop endsReturn returned).or (some (1 + returned.length))).map (· + 1) := by
    have first : findTop endsReturn (' ' :: returned ++ ' ' :: '\x7b' :: rest) =
        (findFrom endsReturn (Place.top (some ' ')) (returned ++ ' ' :: '\x7b' :: rest)).map
          (· + 1) := rfl
    have unread (before : Option Char) (c : Char) (text : List Char) :
        endsReturn before c text = endsReturn none c text := rfl
    rw [first, find_from_top _ none unread, find_from_append_or (ends_return_near _)]
    change (((findTop endsReturn returned).or
      ((findFrom endsReturn (Place.start.through returned) _).map _)).map _) = _
    rw [ended, behind]
    rfl
  unfold visible takeTop
  rw [found]
  cases cut : findTop endsReturn returned with
  | none =>
      refine ⟨[' '], by decide, ?_⟩
      simp only [Option.none_or, Option.map_some]
      rw [List.cons_append, List.take_succ_cons, Nat.add_comm 1, List.take_length_add_append]
      rfl
  | some index =>
      refine ⟨[], by decide, ?_⟩
      have within : index ≤ returned.length := Nat.le_of_lt (find_from_lt cut)
      simp [List.take_append_of_le_length within]

theorem visible_begins (returned : List Char) : visible returned <+: returned := by
  unfold visible takeTop
  split
  · exact List.take_prefix _ _
  · exact List.prefix_refl _

theorem drop_lead_absent {lead text : List Char} (absent : ¬lead <+: text) :
    dropLead lead text = text := by
  unfold dropLead
  split
  · next rest found => exact absurd ⟨rest, (eq_append_of_after_start found).symm⟩ absent
  · rfl

section Declaration

variable {language : Option Language} {name params returned : List Char}

/-- The canonical form of what is read of a type is its visible part, collapsed. -/
theorem normalize_visible (type : TypeText language returned) {blanks : List Char}
    (blank : AllBlank blanks) :
    normalizeType language ([' '] ++ visible returned ++ blanks) = collapse (visible returned) := by
  obtain ⟨hidden, whole⟩ := visible_begins returned
  have quoteFree : ∀ c ∈ visible returned, isQuote c = false := fun c member =>
    type.quoteFree c (whole ▸ List.mem_append_left hidden member)
  have free : commentFree (Dialect.of language) (visible returned) = true :=
    comment_free_of_append (whole ▸ type.commentFree)
  have uncommented : Uncommented language ([' '] ++ visible returned ++ blanks) :=
    (Uncommented.calm_append (by decide) (.of_plain quoteFree free)).append_calm
      fun c member => blank_calm (blank c member)
  have space : AllBlank [' '] := by decide
  have absent (lead : List Char) (listed : lead ∈ [[':'], ['-', '>']])
      (filled : lead.filter (!isBlank ·) = lead) : ¬lead <+: collapse (visible returned) := by
    intro led
    have shown := led.filter (!isBlank ·)
    rw [filled, filled_collapse] at shown
    exact type.start lead listed (shown.trans ((visible_begins returned).filter _))
  rw [normalizeType, uncommented.kept, collapse_around space blank,
    drop_lead_absent (absent ['-', '>'] (by simp) (by decide)),
    drop_lead_absent (absent [':'] (by simp) (by decide))]

theorem find_all_begins {pattern : Pattern} {text : List Char} {found : Match} (filled : text ≠ [])
    (begins : pattern.matchAt (Cursor.start text) = some found) :
    ∃ more, pattern.findAll text = found :: more := by
  cases text with
  | nil => exact absurd rfl filled
  | cons c rest =>
      refine ⟨pattern.findAllFrom found.stop (some c) rest 1, ?_⟩
      rw [Pattern.findAll, Pattern.findAllFrom, if_neg (Nat.lt_irrefl 0)]
      rw [Cursor.start] at begins
      rw [begins]

theorem declaration_head_calm (named : IsName name) :
    ∀ c ∈ declarationHead name, isCalm c = true := by
  have keyword : ∀ c ∈ "function ".toList, isCalm c = true := by decide
  have paren : ∀ c ∈ ['('], isCalm c = true := by decide
  intro c member
  simp only [declaration_head, List.mem_append] at member
  rcases member with (early | inName) | late
  · exact keyword c early
  · exact named.calm c inName
  · exact paren c late

/-- A declaration is read as it is written. -/
theorem declaration_unmasked (named : IsName name) (plain : PlainParams language params)
    (type : TypeText language returned) (hideStrings : Bool) :
    mask language hideStrings (declaration name params returned) =
      declaration name params returned := by
  have between : ∀ c ∈ "): ".toList, isCalm c = true := by decide
  have body : ∀ c ∈ " \x7b \x7d".toList, isCalm c = true := by decide
  have unquoted {c : Char} (calm : isCalm c = true) : isQuote c = false := by
    simp only [isCalm, Bool.and_eq_true, Bool.not_eq_true'] at calm
    exact calm.1.1.1
  apply (read_plain _ _).2 hideStrings
  · intro c member
    simp only [declaration, List.mem_append] at member
    rcases member with (((inHead | inParams) | inBetween) | inType) | inBody
    · exact unquoted (declaration_head_calm named c inHead)
    · exact plain.quoteFree c inParams
    · exact unquoted (between c inBetween)
    · exact type.quoteFree c inType
    · exact unquoted (body c inBody)
  · have head : commentFree (Dialect.of language) (declarationHead name) = true :=
      comment_free_of_calm (declaration_head_calm named)
    have opened : (declarationHead name).getLast? ≠ some '/' := by
      rw [declaration_head, List.getLast?_concat]
      decide
    have listed := comment_free_append head plain.commentFree (.inl opened)
    have closed := comment_free_append listed (comment_free_of_calm between)
      (.inr (by rintro c ⟨⟩; decide))
    have spaced : (declarationHead name ++ params ++ "): ".toList).getLast? ≠ some '/' := by
      rw [List.getLast?_append]
      simp
    have typed := comment_free_append closed type.commentFree (.inl spaced)
    exact comment_free_append typed (comment_free_of_calm body) (.inr (by rintro c ⟨⟩; decide))

theorem declaration_eq (name params returned : List Char) :
    declaration name params returned = "function ".toList ++ name ++ '(' :: params ++
      ')' :: (':' :: (' ' :: returned ++ ' ' :: "\x7b \x7d".toList)) := by
  have body : " \x7b \x7d".toList = ' ' :: "\x7b \x7d".toList := rfl
  have between : "): ".toList = [')', ':', ' '] := rfl
  rw [declaration, declaration_head, body, between]
  simp only [List.append_assoc, List.cons_append, List.nil_append]

/-- At the header of a function with a colon behind its parameters, the parameters and the type are
read. -/
theorem at_colon_header (plain : PlainParams language params) {header : Match}
    (before body : List Char) (stop : header.stop = before.length + 1) :
    atHeader language (before ++ '(' :: params ++ ')' :: ':' :: body) .colonThenBody header =
      some (build (normalizeParams language ('(' :: params ++ [')']))
        (normalizeType language (takeTop endsReturn body))) := by
  have openAt : header.stop - 1 = before.length := by omega
  have inParens : ((before ++ '(' :: params ++ ')' :: ':' :: body).drop before.length).take
      (before.length + params.length + 1 + 1 - before.length) = '(' :: params ++ [')'] := by
    have count : before.length + params.length + 1 + 1 - before.length =
        ('(' :: params).length + 1 := by
      simp only [List.length_cons]
      omega
    rw [List.append_assoc, List.drop_left, count, List.take_length_add_append]
    rfl
  have behind : (before ++ '(' :: params ++ ')' :: ':' :: body).drop
      (before.length + params.length + 1 + 1) = ':' :: body := by
    have count : before.length + params.length + 1 + 1 = (before ++ '(' :: params).length + 1 := by
      simp only [List.length_append, List.length_cons]
      omega
    rw [count, List.drop_length_add_append]
    rfl
  have colon : trimStart (':' :: body) = ':' :: body := trim_start_of_head rfl (by decide)
  unfold atHeader
  simp only [openAt, closing_paren_of_params plain, inParens, behind]
  simp only [readTail, colon]
  rfl

/-- The signature of a declared function: its canonical parameters, and what is visible of its
return type. -/
theorem signature_of_declaration (named : IsName name)
    (plain : PlainParams (some .typescript) params) (type : TypeText (some .typescript) returned) :
    ofFunction (some .typescript) name (declaration name params returned) =
      some (build (normalizeParams (some .typescript) ('(' :: params ++ [')']))
        (collapse (visible returned))) := by
  obtain ⟨blanks, blank, taken⟩ := take_return type.closed " \x7d".toList
  obtain ⟨found, matched, stop⟩ : ∃ found, (declaredHeader (Pattern.chars name)).matchAt
      (Cursor.start (declaration name params returned)) = some found ∧
        found.stop = ("function ".toList ++ name).length + 1 := by
    rw [declaration_eq, List.append_assoc]
    refine ⟨_, run_declared_header named _ rfl, ?_⟩
    rw [List.length_append, Nat.zero_add]
    rfl
  have filled : declaration name params returned ≠ [] := by
    rw [declaration_eq]
    simp
  obtain ⟨more, listed⟩ := find_all_begins filled matched
  have shown : atHeader (some .typescript) (declaration name params returned) .colonThenBody found =
      some (build (normalizeParams (some .typescript) ('(' :: params ++ [')']))
        (collapse (visible returned))) := by
    have read := at_colon_header plain ("function ".toList ++ name)
      (' ' :: returned ++ ' ' :: "\x7b \x7d".toList) stop
    rw [← declaration_eq] at read
    rw [read, ← normalize_visible type blank, ← taken]
    rfl
  have headers : functionHeaders (some .typescript) name =
      [⟨declaredHeader (Pattern.chars name), .colonThenBody⟩,
        ⟨boundHeader (Pattern.chars name), .boundValue⟩] := rfl
  unfold ofFunction stripComments
  simp only [declaration_unmasked named plain type, headers, List.findSome?_cons, listed, shown]

end Declaration

theorem build_injective {params first second : List Char}
    (same : build params first = build params second) : first = second := by
  unfold build at same
  have tails := List.append_cancel_left same
  cases first <;> cases second <;> simp_all

/-- The signatures of two functions that differ in their return types only: both are found, and
they differ exactly when the visible parts of the types do. Types without a brace, semicolon, newline
or function arrow outside brackets are visible as a whole. -/
theorem told_apart_iff_visible_parts_differ (name params first second : List Char)
    (named : IsName name) (plain : PlainParams (some .typescript) params)
    (type : TypeText (some .typescript) first) (other : TypeText (some .typescript) second) :
    ∃ old new,
      ofFunction (some .typescript) name (declaration name params first) = some old ∧
      ofFunction (some .typescript) name (declaration name params second) = some new ∧
      (old ≠ new ↔ collapse (visible first) ≠ collapse (visible second)) ∧
      (findTop endsReturn first = none → findTop endsReturn second = none →
        collapse first ≠ collapse second → old ≠ new) := by
  have differ : build (normalizeParams (some .typescript) ('(' :: params ++ [')']))
        (collapse (visible first)) ≠
      build (normalizeParams (some .typescript) ('(' :: params ++ [')']))
        (collapse (visible second)) ↔ collapse (visible first) ≠ collapse (visible second) :=
    not_congr ⟨build_injective, fun same => by rw [same]⟩
  refine ⟨_, _, signature_of_declaration named plain type,
    signature_of_declaration named plain other, differ, ?_⟩
  intro whole wholeToo changed
  have seen {text : List Char} (free : findTop endsReturn text = none) : visible text = text := by
    simp only [visible, takeTop, free]
  rw [differ, seen whole, seen wholeToo]
  exact changed

/-- A changed type argument shows in the signature. -/
theorem changed_promise_told_apart :
    IsName "load".toList ∧
      PlainParams (some .typescript) "then: (found: User) => void".toList ∧
      TypeText (some .typescript) "Promise<User>".toList ∧
      TypeText (some .typescript) "Promise<[User, Map<Id, User>]>".toList ∧
      ∃ old new,
        ofFunction (some .typescript) "load".toList (declaration "load".toList
          "then: (found: User) => void".toList "Promise<User>".toList) = some old ∧
        ofFunction (some .typescript) "load".toList (declaration "load".toList
          "then: (found: User) => void".toList "Promise<[User, Map<Id, User>]>".toList) = some new ∧
        old ≠ new := by
  have named : IsName "load".toList := by decide
  have plain : PlainParams (some .typescript) "then: (found: User) => void".toList :=
    ⟨by decide, by decide, by decide⟩
  have type : TypeText (some .typescript) "Promise<User>".toList :=
    ⟨by decide, by decide, by decide, by decide⟩
  have other : TypeText (some .typescript) "Promise<[User, Map<Id, User>]>".toList :=
    ⟨by decide, by decide, by decide, by decide⟩
  obtain ⟨old, new, found, foundToo, -, whole⟩ :=
    told_apart_iff_visible_parts_differ _ _ _ _ named plain type other
  exact ⟨named, plain, type, other, old, new, found, foundToo,
    whole (by decide) (by decide) (by decide)⟩

/-- Nothing is visible of an object type, so a change inside one does not show. -/
theorem changed_object_not_told_apart :
    IsName "f".toList ∧ PlainParams (some .typescript) [] ∧
      TypeText (some .typescript) "\x7b a: number \x7d".toList ∧
      TypeText (some .typescript) "\x7b b: string \x7d".toList ∧
      '\n' ∉ "\x7b a: number \x7d".toList ∧ '\n' ∉ "\x7b b: string \x7d".toList ∧
      collapse "\x7b a: number \x7d".toList ≠ collapse "\x7b b: string \x7d".toList ∧
      ofFunction (some .typescript) "f".toList
          (declaration "f".toList [] "\x7b a: number \x7d".toList) =
        ofFunction (some .typescript) "f".toList
          (declaration "f".toList [] "\x7b b: string \x7d".toList) := by
  have named : IsName "f".toList := by decide
  have plain : PlainParams (some .typescript) [] := ⟨by decide, by decide, by decide⟩
  have type : TypeText (some .typescript) "\x7b a: number \x7d".toList :=
    ⟨by decide, by decide, by decide, by decide⟩
  have other : TypeText (some .typescript) "\x7b b: string \x7d".toList :=
    ⟨by decide, by decide, by decide, by decide⟩
  have hidden : visible "\x7b a: number \x7d".toList = visible "\x7b b: string \x7d".toList := by
    decide
  refine ⟨named, plain, type, other, by decide, by decide, by decide, ?_⟩
  rw [signature_of_declaration named plain type, signature_of_declaration named plain other, hidden]

end EditImpact.Signature
