import EditImpact.Proofs.Signature.ColonParams

/-!
# The canonical form of a parameter list is its contract

In the languages that write types behind a colon, two parameter lists have the same canonical form
exactly when they agree, one parameter after the other, in marker, collapsed type, question mark and
presence of a default value. One direction is `Param.normalize_colon`; for the other one the
contracts are read back from the canonical form, first each from the list (`join_injective`), then
its parts from its ends (`Contract.text_injective`).
-/

namespace EditImpact.Signature

open Source Text

set_option autoImplicit false

/-- Lists of texts that can stand between commas are told apart by what they join to. -/
theorem join_injective {left right : List (List Char)}
    (level : ∀ text ∈ left ++ right, Level text) (filled : ∀ text ∈ left ++ right, text ≠ [])
    (same : joinWith [','] left = joinWith [','] right) : left = right := by
  have nonempty (text : List Char) (texts : List (List Char)) (there : text ≠ []) :
      joinWith [','] (text :: texts) ≠ [] := by
    obtain ⟨rest, joined⟩ := join_cons [','] text texts
    rw [joined]
    exact fun empty => there (List.append_eq_nil_iff.mp empty).1
  cases left with
  | nil =>
      cases right with
      | nil => rfl
      | cons text texts => exact absurd same.symm (nonempty text texts (filled text (by simp)))
  | cons text texts =>
      cases right with
      | nil => exact absurd same (nonempty text texts (filled text (by simp)))
      | cons other others =>
          have cutLeft := cut_joined (by decide) (List.cons_ne_nil text texts)
            (fun piece member => level piece (List.mem_append_left _ member)) none
          have cutRight := cut_joined (by decide) (List.cons_ne_nil other others)
            (fun piece member => level piece (List.mem_append_right _ member)) none
          rw [← cutLeft, same, cutRight]

namespace Contract

/-- The type of a contract can be told from what stands around it. -/
structure Legible (contract : Contract) : Prop where
  level : ∀ type, contract.type = some type → Level type
  filled : ∀ type, contract.type = some type → type ≠ [] ∧ type ≠ ['_']
  start : ∀ type, contract.type = some type →
    type.head? ≠ some '*' ∧ ¬"...".toList <+: type
  finish : ∀ type, contract.type = some type →
    type.getLast? ≠ some '?' ∧ type.getLast? ≠ some '='

def body (contract : Contract) : List Char := contract.type.getD ['_']

def flags (contract : Contract) : List Char :=
  (if contract.optional then ['?'] else []) ++ (if contract.defaulted then ['='] else [])

def isFlag (c : Char) : Bool := c == '?' || c == '='

variable {contract other : Contract}

theorem text_eq (contract : Contract) :
    contract.text = contract.marker.text ++ (contract.body ++ contract.flags) :=
  List.append_assoc _ _ _

theorem flags_are_flags (contract : Contract) : ∀ c ∈ contract.flags, isFlag c = true := by
  unfold flags
  cases contract.optional <;> cases contract.defaulted <;> decide

theorem flags_injective (same : contract.flags = other.flags) :
    contract.optional = other.optional ∧ contract.defaulted = other.defaulted := by
  unfold flags at same
  cases first : contract.optional <;> cases second : contract.defaulted <;>
    cases third : other.optional <;> cases fourth : other.defaulted <;> simp_all

theorem body_filled (legible : contract.Legible) : contract.body ≠ [] := by
  unfold body
  cases present : contract.type with
  | none => simp
  | some type => exact (legible.filled type present).1

theorem body_last (legible : contract.Legible) :
    ∃ c, contract.body.getLast? = some c ∧ isFlag c = false := by
  refine ⟨_, List.getLast?_eq_some_getLast (body_filled legible), ?_⟩
  have final : contract.body.getLast? ≠ some '?' ∧ contract.body.getLast? ≠ some '=' := by
    unfold body
    cases present : contract.type with
    | none => decide
    | some type => exact legible.finish type present
  rw [List.getLast?_eq_some_getLast (body_filled legible)] at final
  simpa [isFlag] using final

/-- The flags are the longest end of a canonical form that is made of flags. -/
theorem flags_eq_trailing (legible : contract.Legible) :
    (contract.body ++ contract.flags).reverse.takeWhile isFlag = contract.flags.reverse := by
  obtain ⟨c, last, stop⟩ := body_last legible
  obtain ⟨front, whole⟩ := List.getLast?_eq_some_iff.mp last
  have flags : ∀ d ∈ contract.flags.reverse, isFlag d = true := fun d member =>
    contract.flags_are_flags d (List.mem_reverse.mp member)
  rw [List.reverse_append, List.takeWhile_append_of_pos flags, whole, List.reverse_append]
  simp [stop]

theorem body_and_flags_injective (legible : contract.Legible) (legibleToo : other.Legible)
    (same : contract.body ++ contract.flags = other.body ++ other.flags) :
    contract.body = other.body ∧ contract.flags = other.flags := by
  have flags : contract.flags = other.flags := by
    have trailing := flags_eq_trailing legible
    rw [same, flags_eq_trailing legibleToo] at trailing
    exact List.reverse_inj.mp trailing.symm
  rw [flags] at same
  exact ⟨List.append_cancel_right same, flags⟩

theorem body_injective (legible : contract.Legible) (legibleToo : other.Legible)
    (same : contract.body = other.body) : contract.type = other.type := by
  unfold body at same
  cases left : contract.type with
  | none =>
      cases right : other.type with
      | none => rfl
      | some type =>
          rw [left, right] at same
          exact absurd same.symm (legibleToo.filled type right).2
  | some type =>
      cases right : other.type with
      | none =>
          rw [left, right] at same
          exact absurd same (legible.filled type left).2
      | some type' =>
          rw [left, right] at same
          exact congrArg some same

/-- No marker begins a body with its flags. -/
theorem body_start (legible : contract.Legible) :
    (contract.body ++ contract.flags).head? ≠ some '*' ∧
      ¬"...".toList <+: contract.body ++ contract.flags := by
  have start : contract.body.head? ≠ some '*' ∧ ¬"...".toList <+: contract.body := by
    unfold body
    cases present : contract.type with
    | none => decide
    | some type => exact legible.start type present
  obtain ⟨c, more, whole⟩ := List.exists_cons_of_ne_nil (body_filled legible)
  constructor
  · rw [whole] at start ⊢
    exact start.1
  · rintro ⟨rest, dots⟩
    apply start.2
    rcases List.append_eq_append_iff.mp dots with ⟨behind, longer, -⟩ | ⟨extra, dots, flags⟩
    · exact ⟨behind, longer.symm⟩
    · cases extra with
      | nil => exact ⟨[], by rw [List.append_nil, dots, List.append_nil]⟩
      | cons d extra =>
          have flag := contract.flags_are_flags d (by rw [flags]; simp)
          have dot : d = '.' := by
            have member : d ∈ "...".toList := by rw [dots]; simp
            simpa using member
          rw [dot] at flag
          exact absurd flag (by decide)

theorem marker_injective {left right : Marker} {rest behind : List Char}
    (start : rest.head? ≠ some '*' ∧ ¬"...".toList <+: rest)
    (startToo : behind.head? ≠ some '*' ∧ ¬"...".toList <+: behind)
    (same : left.text ++ rest = right.text ++ behind) : left = right ∧ rest = behind := by
  have star {text more : List Char} (led : text = '*' :: more) (free : text.head? ≠ some '*') :
      False := free (by rw [led]; rfl)
  have dots {text more : List Char} (led : text = "...".toList ++ more)
      (free : ¬"...".toList <+: text) : False := free ⟨more, led.symm⟩
  cases left <;> cases right <;> simp only [Marker.text, List.nil_append] at same
  case plain.plain => exact ⟨rfl, same⟩
  case plain.dots => exact (dots same start.2).elim
  case plain.star => exact (star same start.1).elim
  case plain.stars => exact (star same start.1).elim
  case dots.plain => exact (dots same.symm startToo.2).elim
  case dots.dots => exact ⟨rfl, List.append_cancel_left same⟩
  case dots.star => exact absurd (List.cons.inj same).1 (by decide)
  case dots.stars => exact absurd (List.cons.inj same).1 (by decide)
  case star.plain => exact (star same.symm startToo.1).elim
  case star.dots => exact absurd (List.cons.inj same).1 (by decide)
  case star.star => exact ⟨rfl, (List.cons.inj same).2⟩
  case star.stars => exact (star (List.cons.inj same).2 start.1).elim
  case stars.plain => exact (star same.symm startToo.1).elim
  case stars.dots => exact absurd (List.cons.inj same).1 (by decide)
  case stars.star => exact (star (List.cons.inj same).2.symm startToo.1).elim
  case stars.stars => exact ⟨rfl, List.append_cancel_left same⟩

/-- A contract can be read back from its canonical form. -/
theorem text_injective (legible : contract.Legible) (legibleToo : other.Legible)
    (same : contract.text = other.text) : contract = other := by
  rw [text_eq, text_eq] at same
  obtain ⟨marker, rest⟩ := marker_injective (body_start legible) (body_start legibleToo) same
  obtain ⟨body, flags⟩ := body_and_flags_injective legible legibleToo rest
  have type := body_injective legible legibleToo body
  obtain ⟨optional, defaulted⟩ := flags_injective flags
  cases contract
  cases other
  cases marker
  cases type
  cases optional
  cases defaulted
  rfl

theorem text_level (legible : contract.Legible) : Level contract.text := by
  have body : Level contract.body := by
    unfold body
    cases present : contract.type with
    | none => decide
    | some type => exact legible.level type present
  have flags : Level contract.flags := by
    unfold flags
    cases contract.optional <;> cases contract.defaulted <;> decide
  rw [text_eq]
  exact (Param.marker_level contract.marker).append (body.append flags)

theorem text_filled (legible : contract.Legible) : contract.text ≠ [] := by
  rw [text_eq]
  intro empty
  have rest := (List.append_eq_nil_iff.mp empty).2
  exact body_filled legible (List.append_eq_nil_iff.mp rest).1

/-- Lists of contracts can be read back from what their canonical forms join to. -/
theorem list_injective {left right : List Contract}
    (legible : ∀ contract ∈ left ++ right, contract.Legible)
    (same : joinWith [','] (left.map text) = joinWith [','] (right.map text)) : left = right := by
  have texts : left.map text = right.map text := by
    apply join_injective _ _ same
    · intro shown member
      rw [← List.map_append] at member
      obtain ⟨contract, listed, rfl⟩ := List.mem_map.mp member
      exact text_level (legible contract listed)
    · intro shown member
      rw [← List.map_append] at member
      obtain ⟨contract, listed, rfl⟩ := List.mem_map.mp member
      exact text_filled (legible contract listed)
  clear same
  induction left generalizing right with
  | nil => exact (List.map_eq_nil_iff.mp texts.symm).symm
  | cons first left induction =>
      cases right with
      | nil => cases texts
      | cons second right =>
          obtain ⟨here, later⟩ := List.cons.inj texts
          have equal := text_injective (legible first (by simp)) (legible second (by simp)) here
          have rest := induction (fun contract member => legible contract (by
            rcases List.mem_append.mp member with inLeft | inRight <;> simp [*])) later
          rw [equal, rest]

end Contract

/-- A text of a parameter as it may be written: no quotes and no comments, with every bracket
closed and no comma outside brackets. The blanks around it belong to the layout. -/
structure Plain (language : Option Language) (text : List Char) : Prop where
  tight : Tight text
  quoteFree : ∀ c ∈ text, isQuote c = false
  commentFree : commentFree (Dialect.of language) text = true
  level : Level text

/-- A type as it may be written. Collapsed, it can be told from the marks around it and from a
missing type. -/
structure PlainType (language : Option Language) (type : List Char) : Prop
    extends Plain language type where
  unassigned : findTop isAssign type = none
  collapsed : Level (collapse type)
  shown : collapse type ≠ ['_']
  start : ∀ lead ∈ ["*", "...", ":", "="], ¬lead.toList <+: collapse type
  finish : ∀ c ∈ ['?', '='], (collapse type).getLast? ≠ some c

/-- A parameter with its layout, whose name is no access word. At least one blank stands on either
side of the equals sign. -/
structure Written (language : Option Language) where
  param : Param
  layout : Layout
  spaced : layout.beforeEquals ≠ [] ∧ layout.afterEquals ≠ []
  name : IsName param.binder
  own : ∀ word ∈ accessWords, word.toList ≠ param.binder
  typed : ∀ type, param.type = some type → PlainType language type
  given : ∀ value, param.fallback = some value → Plain language value

theorem Plain.uncommented {language : Option Language} {text : List Char}
    (plain : Plain language text) : Uncommented language text :=
  .of_plain plain.quoteFree plain.commentFree

theorem PlainType.fits {language : Option Language} {type : List Char}
    (plain : PlainType language type) : Param.TypeFits type where
  tight := plain.tight
  level := plain.level
  unassigned := plain.unassigned
  start := by
    obtain ⟨head, -⟩ := collapse_ends plain.tight
    have lead (c : Char) (free : ¬[c] <+: collapse type) : type.head? ≠ some c := by
      rw [← head]
      intro first
      obtain ⟨rest, whole⟩ := List.head?_eq_some_iff.mp first
      exact free ⟨rest, whole.symm⟩
    exact ⟨lead ':' (plain.start ":" (by simp)), lead '=' (plain.start "=" (by simp))⟩
  finish := by
    rw [← (collapse_ends plain.tight).2]
    exact plain.finish '=' (by simp)

namespace Written

variable {language : Option Language}

theorem fits (written : Written language) (other : language ≠ some .rust) :
    written.param.Fits language where
  tight := written.name.tight
  clear := written.name.clear (by decide)
  start := ⟨written.name.head_ne (by decide), written.name.head_ne (by decide),
    written.name.head_ne (by decide)⟩
  finish := written.name.last_ne (by decide)
  typed := fun type present => (written.typed type present).fits
  given := fun value present =>
    ⟨(written.given value present).tight, (written.given value present).level⟩
  named := fun _ => ⟨written.name, written.own, other⟩
  uncommented := by
    intro text member
    simp only [List.mem_cons, List.mem_append, Option.mem_toList] at member
    rcases member with rfl | type | value
    · exact .of_calm written.name.calm
    · exact (written.typed text type).uncommented
    · exact (written.given text value).uncommented

theorem legible (written : Written language) : written.param.contract.Legible := by
  have shown (type : List Char) (present : written.param.contract.type = some type) :
      ∃ source, PlainType language source ∧ collapse source = type := by
    obtain ⟨source, given, same⟩ := Option.map_eq_some_iff.mp present
    exact ⟨source, written.typed source given, same⟩
  constructor
  · intro type present
    obtain ⟨source, plain, rfl⟩ := shown type present
    exact plain.collapsed
  · intro type present
    obtain ⟨source, plain, rfl⟩ := shown type present
    refine ⟨fun empty => ?_, plain.shown⟩
    obtain ⟨⟨c, head, -⟩, -⟩ := plain.tight
    rw [← (collapse_ends plain.tight).1, empty] at head
    cases head
  · intro type present
    obtain ⟨source, plain, rfl⟩ := shown type present
    refine ⟨fun star => ?_, plain.start "..." (by simp)⟩
    obtain ⟨rest, whole⟩ := List.head?_eq_some_iff.mp star
    exact plain.start "*" (by simp) ⟨rest, whole.symm⟩
  · intro type present
    obtain ⟨source, plain, rfl⟩ := shown type present
    exact ⟨plain.finish '?' (by simp), plain.finish '=' (by simp)⟩

end Written

/-- The languages that write a parameter as a name and, behind a colon, its type. -/
def colonLanguages : List Language := [.typescript, .tsx, .javascript, .python]

/-- A written parameter list. -/
def writeList {language : Option Language} (frame : Frame) (params : List (Written language)) :
    List Char :=
  frame.around (params.map fun written =>
    written.layout.before ++ written.param.write written.layout ++ written.layout.after)

theorem normalize_list {language : Option Language} (style : ParamStyle.of language = .colon)
    (other : language ≠ some .rust) (frame : Frame) (params : List (Written language)) :
    normalizeParams language (writeList frame params) =
      joinWith [','] ((params.map (·.param.contract)).map Contract.text) := by
  let pieces := params.map fun written =>
    written.param.piece written.layout (written.fits other)
  have fits : frame.Fits pieces := by
    intro _ piece first
    obtain ⟨written, -, rfl⟩ := List.mem_map.mp (List.mem_of_mem_head? first)
    exact Param.head_write_ne (written.fits other) written.layout (written.name.head_ne (by decide))
  have normalized := normalize_pieces frame pieces fits
  simp only [pieces, List.map_map] at normalized ⊢
  refine normalized.trans (congrArg _ (List.map_congr_left fun written _ => ?_))
  simp only [Function.comp, normalizeParam, style]
  exact Param.normalize_colon (written.fits other) (.of_blanks written.spaced _ _)

/-- The canonical form of a parameter list tells exactly its contracts. -/
theorem normalized_alike_iff_same_contracts (language : Language)
    (colon : language ∈ colonLanguages) (left right : Frame)
    (params others : List (Written (some language))) :
    normalizeParams (some language) (writeList left params) =
        normalizeParams (some language) (writeList right others) ↔
      params.map (·.param.contract) = others.map (·.param.contract) := by
  have style : ParamStyle.of (some language) = .colon ∧ some language ≠ some .rust := by
    simp only [colonLanguages, List.mem_cons, List.not_mem_nil, or_false] at colon
    rcases colon with rfl | rfl | rfl | rfl <;> exact ⟨rfl, by decide⟩
  rw [normalize_list style.1 style.2, normalize_list style.1 style.2]
  constructor
  · intro same
    apply Contract.list_injective _ same
    intro contract member
    rw [← List.map_append] at member
    obtain ⟨written, -, rfl⟩ := List.mem_map.mp member
    exact written.legible
  · intro same
    rw [same]

/-- One space wherever a blank may stand, except around marks. -/
def evenLayout : Layout where
  before := [' ']
  afterMarker := []
  beforeMark := []
  beforeColon := []
  afterColon := [' ']
  beforeEquals := [' ']
  afterEquals := [' ']
  after := []
  blank := by decide

/-- As few blanks as possible, and a line for each parameter. -/
def tallLayout : Layout where
  before := ['\n']
  afterMarker := [' ']
  beforeMark := []
  beforeColon := ['\t']
  afterColon := []
  beforeEquals := ['\n', ' ']
  afterEquals := [' ']
  after := []
  blank := by decide

/-- A parameter that takes a function in a table, with a default value. -/
def tableParam (layout : Layout)
    (spaced : layout.beforeEquals ≠ [] ∧ layout.afterEquals ≠ []) (name type : String)
    (named : IsName name.toList)
    (own : ∀ word ∈ accessWords, word.toList ≠ name.toList)
    (plain : PlainType (some .typescript) type.toList) : Written (some .typescript) where
  param := ⟨.plain, name.toList, false, some type.toList, some "none".toList⟩
  layout := layout
  spaced := spaced
  name := named
  own := own
  typed := by
    intro other present
    cases present
    exact plain
  given := by
    intro value present
    cases present
    exact ⟨by decide, by decide, by decide, by decide⟩

/-- A parameter without type that collects the rest. -/
def restParam (layout : Layout)
    (spaced : layout.beforeEquals ≠ [] ∧ layout.afterEquals ≠ []) :
    Written (some .typescript) where
  param := ⟨.dots, "rest".toList, false, none, none⟩
  layout := layout
  spaced := spaced
  name := by decide
  own := by decide
  typed := by simp
  given := by simp

/-- Another name, other blanks and no parentheses make no difference; another result type of a
function inside the type does. -/
theorem respaced_table_alike :
    let table := tableParam evenLayout (by decide) "table" "Map<string, (n: T) => void>"
      (by decide) (by decide) ⟨⟨by decide, by decide, by decide, by decide⟩, by decide, by decide,
        by decide, by decide, by decide⟩
    let byName := tableParam tallLayout (by decide) "byName" "Map< string,(n:T)=>void >"
      (by decide) (by decide) ⟨⟨by decide, by decide, by decide, by decide⟩, by decide, by decide,
        by decide, by decide, by decide⟩
    let byText := tableParam evenLayout (by decide) "table" "Map<string, (n: T) => text>"
      (by decide) (by decide) ⟨⟨by decide, by decide, by decide, by decide⟩, by decide, by decide,
        by decide, by decide, by decide⟩
    let rest := restParam evenLayout (by decide)
    let tallRest := restParam tallLayout (by decide)
    let inside : Frame := ⟨true, [], [], [], by decide, by decide, by decide⟩
    let bare : Frame := ⟨false, [], [], [' '], by decide, by decide, by decide⟩
    writeList inside [table, rest] =
        "( table: Map<string, (n: T) => void> = none, ...rest)".toList ∧
      writeList bare [byName, tallRest] =
        "\nbyName\t:Map< string,(n:T)=>void >\n = none,\n... rest ".toList ∧
      Language.typescript ∈ colonLanguages ∧
      normalizeParams (some .typescript) (writeList inside [table, rest]) =
        normalizeParams (some .typescript) (writeList bare [byName, tallRest]) ∧
      normalizeParams (some .typescript) (writeList inside [table, rest]) ≠
        normalizeParams (some .typescript) (writeList inside [byText, rest]) := by
  intro table byName byText rest tallRest inside bare
  refine ⟨by decide, by decide, by decide, ?_, ?_⟩
  · exact (normalized_alike_iff_same_contracts .typescript (by decide) inside bare [table, rest]
      [byName, tallRest]).mpr (by decide)
  · intro same
    have contracts := (normalized_alike_iff_same_contracts .typescript (by decide) inside inside
      [table, rest] [byText, rest]).mp same
    exact absurd contracts (by decide)

end EditImpact.Signature
