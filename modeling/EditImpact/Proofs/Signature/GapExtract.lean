import EditImpact.Proofs.Signature.GapHeaders
import EditImpact.Proofs.Signature.GapTails
import EditImpact.Signature.Extract

/-!
# Signatures do not see gaps

The signature of a function and the contract of a class depend on the text without its comments only
(`of_function_eq`, `of_class_eq`), and are the same for alike texts (`function_in_alike`,
`class_in_alike`).
-/

namespace EditImpact.Signature

open Pattern Source Text

set_option autoImplicit false

section Parens

/-- A text that begins with the parameters: these with their parentheses, and what follows. -/
def parenthesized (text : List Char) : Option (List Char × List Char) :=
  (balancedFrom 0 none none text).map fun index => (text.take (index + 1), text.drop (index + 1))

/-- Both parts alike, or both missing. -/
def PartsAlike (parts wide : List Char × List Char) : Prop :=
  Alike parts.1 wide.1 ∧ Alike parts.2 wide.2

theorem parenthesized_alike {text wide : List Char} (alike : Alike text wide) :
    Option.Rel PartsAlike (parenthesized text) (parenthesized wide) := by
  unfold parenthesized
  cases alike with
  | same text =>
      cases balancedFrom 0 none none text with
      | none => exact .none
      | some index => exact .some ⟨.same _, .same _⟩
  | wider gap =>
      have quoting : ∀ mark, (none : Option Char) = some mark → isQuote mark = true := nofun
      obtain ⟨same, other⟩ : balancedFrom 0 none none gap.wide =
            (balancedFrom 0 none none gap.narrow).map gap.shift ∧
          balancedFrom 0 none none gap.narrow ≠ some gap.before.length :=
        balanced_from_gap gap.loose gap.after gap.before quoting
      rw [same]
      cases found : balancedFrom 0 none none gap.narrow with
      | none => exact .none
      | some index =>
          have apart : index ≠ gap.before.length := fun same => other (by rw [found, same])
          have next : gap.shift index + 1 = gap.shift (index + 1) := by
            unfold Gap.shift shiftAt
            split <;> split <;> omega
          simp only [Option.map_some, next]
          exact .some ⟨take_alike gap (index + 1), drop_alike gap (index + 1)⟩

theorem closing_paren_parts (text : List Char) (index : Nat) :
    parenthesized (text.drop index) = (closingParen text index).map fun closing =>
      ((text.drop index).take (closing + 1 - index), text.drop (closing + 1)) := by
  unfold parenthesized closingParen
  rw [Option.map_map]
  refine congrArg (Option.map · _) (funext fun found => ?_)
  have first : found + index + 1 - index = found + 1 := by omega
  have second : index + (found + 1) = found + index + 1 := by omega
  simp only [Function.comp_apply, List.drop_drop, first, second]

end Parens

section Headers

/-- The signature that a header introduces, read from its opening parenthesis on. -/
def signatureFrom (language : Option Language) (kind : HeaderKind) (part header code : List Char) :
    Option (List Char) :=
  if kind == .beforeName && notTypes.any (·.toList == part) then none
  else
    (parenthesized code).bind fun (params, after) =>
      let tail := readTail kind after
      if kind == .boundValue && !occursIn "function".toList header && !tail.arrow then none
      else
        let returned := if kind == .beforeName then part else tail.returned
        some (build (normalizeParams language params) (normalizeType language returned))

theorem at_header_eq (language : Option Language) (code : List Char) (kind : HeaderKind)
    (header : Match) :
    atHeader language code kind header =
      signatureFrom language kind header.part header.text (code.drop (header.stop - 1)) := by
  unfold atHeader signatureFrom
  rw [closing_paren_parts]
  split
  · rfl
  · simp only
    cases closingParen code (header.stop - 1) <;> rfl

theorem not_type_alike {part wide : List Char} (alike : Alike part wide) :
    notTypes.any (·.toList == part) = notTypes.any (·.toList == wide) := by
  have solid : ∀ word ∈ notTypes, Solid word.toList := by decide
  have same (word : String) (listed : word ∈ notTypes) : word.toList = part ↔ word.toList = wide :=
    eq_comm.trans ((alike_solid alike (solid word listed)).trans eq_comm)
  rw [Bool.eq_iff_iff]
  simp only [List.any_eq_true, beq_iff_eq]
  exact exists_congr fun word => and_congr_right (same word)

theorem occurs_in_cons (part : List Char) (c : Char) (rest : List Char) :
    occursIn part (c :: rest) = (part.isPrefixOf (c :: rest) || occursIn part rest) := by
  unfold occursIn
  rw [indexOf]
  split
  · next starts => rw [starts]; rfl
  · next differs =>
      rw [Bool.not_eq_true] at differs
      rw [differs, Option.isSome_map, Bool.false_or]

theorem occurs_alike {word text wide : List Char} (solid : Solid word) (alike : Alike text wide) :
    occursIn word text = occursIn word wide :=
  alike.congr fun gap => by
    unfold Gap.narrow Gap.wide
    induction gap.before with
    | nil =>
        have here := prefix_before_blank solid gap.loose.blank_blank [] gap.after
        have early := prefix_before_blank solid gap.loose.added_blank [] (gap.blank :: gap.after)
        rw [List.nil_append] at here early ⊢
        rw [List.nil_append, occurs_in_cons _ gap.added, early, occurs_in_cons, here,
          ← Bool.or_assoc, Bool.or_self]
    | cons c before induction =>
        have here := prefix_before_blank solid gap.loose.blank_blank (c :: before) gap.after
        have early := prefix_before_blank solid gap.loose.added_blank (c :: before)
          (gap.blank :: gap.after)
        rw [List.cons_append] at here early ⊢
        rw [List.cons_append, occurs_in_cons, occurs_in_cons, here, early, induction]

theorem signature_from_alike (language : Option Language) (kind : HeaderKind)
    {part partWide header headerWide code codeWide : List Char} (parts : Alike part partWide)
    (headers : Alike header headerWide) (codes : Alike code codeWide) :
    signatureFrom language kind part header code =
      signatureFrom language kind partWide headerWide codeWide := by
  have word := occurs_alike (by decide : Solid "function".toList) headers
  have params := parenthesized_alike codes
  unfold signatureFrom
  rw [not_type_alike parts, word]
  split
  · rfl
  · revert params
    generalize parenthesized code = found
    generalize parenthesized codeWide = foundWide
    intro params
    cases params with
    | none => rw [Option.bind_none, Option.bind_none]
    | some alike =>
        obtain ⟨returned, arrow⟩ := read_tail_alike language kind alike.2
        simp only [Option.bind_some, arrow, normalize_params_alike language alike.1]
        split
        · rfl
        · split
          · rw [normalize_type_alike language parts]
          · rw [returned]

end Headers

section Functions

/-- The signature of the first function called `name` in a text without comments. -/
def functionIn (language : Option Language) (name code : List Char) : Option (List Char) :=
  let masked := mask language true code
  let found := (functionHeaders language name).findSome? fun header =>
    (header.pattern.findAll masked).findSome? (atHeader language code header.kind)
  match found with
  | some signature => some signature
  | none =>
    if hasBareArrows language then
      ((bareArrow name).search masked).map fun header =>
        build (normalizeParams language header.part) []
    else none

theorem of_function_eq (language : Option Language) (name text : List Char) :
    ofFunction language name text = functionIn language name (stripComments language text) := by
  unfold functionIn
  rw [mask_stripped]
  rfl

theorem drop_stop_alike (gap : Gap) (stop : Nat) :
    Alike (gap.narrow.drop (stop - 1)) (gap.wide.drop (gap.shift stop - 1)) := by
  rcases Nat.lt_trichotomy stop (gap.before.length + 1) with within | at' | beyond
  · have same : gap.shift stop - 1 = gap.shift (stop - 1) := by
      rw [Gap.shift, Gap.shift, shiftAt, shiftAt, if_pos (by omega), if_pos (by omega)]
    rw [same]
    exact drop_alike gap (stop - 1)
  · have shifted : gap.shift stop - 1 = gap.before.length + 1 := by
      rw [Gap.shift, shiftAt, if_neg (by omega), at', Nat.add_sub_cancel]
    have narrow : gap.narrow.drop (stop - 1) = gap.blank :: gap.after := by
      rw [at', Nat.add_sub_cancel]
      exact List.drop_left
    have wide : gap.wide.drop (gap.before.length + 1) = gap.blank :: gap.after :=
      List.drop_length_add_append 1
    rw [shifted, narrow, wide]
    exact .same _
  · have same : gap.shift stop - 1 = gap.shift (stop - 1) := by
      rw [Gap.shift, Gap.shift, shiftAt, shiftAt, if_neg (by omega), if_neg (by omega)]
      omega
    rw [same]
    exact drop_alike gap (stop - 1)

theorem part_alike {gap : Gap} {found wide : Match} (alike : MatchAlike gap found wide) :
    Alike found.part wide.part := by
  have captured := alike.captured
  unfold Match.part
  revert captured
  generalize found.captured = part
  generalize wide.captured = partWide
  intro captured
  cases captured with
  | none => exact .same _
  | some alike => exact alike

variable {language : Option Language} {name : List Char}

theorem at_header_alike {gap masked : Gap} (length : masked.before.length = gap.before.length)
    (kind : HeaderKind) {found wide : Match} (alike : MatchAlike masked found wide) :
    atHeader language gap.narrow kind found = atHeader language gap.wide kind wide := by
  have stop : wide.stop = gap.shift found.stop := by
    rw [alike.stop, Gap.shift, Gap.shift, length]
  rw [at_header_eq, at_header_eq, stop]
  exact signature_from_alike language kind (part_alike alike) alike.text (drop_stop_alike gap _)

theorem find_some_congr {Item Result : Type} {items : List Item} {read other : Item → Option Result}
    (same : ∀ item ∈ items, read item = other item) :
    items.findSome? read = items.findSome? other := by
  induction items with
  | nil => rfl
  | cons item items induction =>
      rw [List.findSome?_cons, List.findSome?_cons, same item List.mem_cons_self,
        induction fun later member => same later (List.mem_cons_of_mem item member)]

theorem function_in_alike (word : OneWord name) {code wide : List Char} (alike : Alike code wide) :
    functionIn language name code = functionIn language name wide :=
  alike.congr fun gap => by
    obtain ⟨masked, length, narrow, wide⟩ := mask_gap language true gap
    have headers : ((functionHeaders language name).findSome? fun header =>
          (header.pattern.findAll masked.narrow).findSome?
            (atHeader language gap.narrow header.kind)) =
        (functionHeaders language name).findSome? fun header =>
          (header.pattern.findAll masked.wide).findSome? (atHeader language gap.wide header.kind) :=
      find_some_congr fun header listed =>
        find_all_aligned (finds_of_tame (function_headers_tame word language listed) masked)
          (at_header_alike length header.kind)
    have arrows := search_text_aligned (finds_of_tame (bare_arrow_tame word) masked)
    unfold functionIn
    simp only [narrow, wide, headers]
    split
    · rfl
    · split
      · revert arrows
        generalize (bareArrow name).search masked.narrow = found
        generalize (bareArrow name).search masked.wide = foundWide
        intro arrows
        cases arrows with
        | none => rfl
        | some alike =>
            simp only [Option.map_some, normalize_params_alike language (part_alike alike)]
      · rfl

end Functions

end EditImpact.Signature
