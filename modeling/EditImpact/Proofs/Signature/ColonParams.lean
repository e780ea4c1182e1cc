import EditImpact.Proofs.Signature.Pieces
import EditImpact.Proofs.Source.Collapsing
import Mathlib.Data.List.Basic

/-!
# Parameters written with a colon

A parameter is a marker, what it binds, a question mark, a type and a default value, with blanks
between them. `normalize_colon` gives the canonical form of every such text: it shows the marker, the
collapsed type and whether there is a question mark and a default value, and nothing else.
-/

namespace EditImpact.Signature

open Source Text Place

set_option autoImplicit false

section Cutting

theorem cut_top_missed {wanted : Wanted} {text : List Char}
    (missed : Misses wanted (top none) text []) : cutTop wanted text = (text, none) := by
  have nowhere : findTop wanted text = none := (find_from_eq_none_iff wanted _ text).mpr missed
  rw [cutTop, nowhere]

/-- A text is cut at the first wanted character outside brackets and strings. -/
theorem cut_top_found {wanted : Wanted} {left right : List Char} {c : Char} {last : Option Char}
    (missed : Misses wanted (top none) left (c :: right))
    (reached : (top none).through left = top last) (plain : isQuote c = false)
    (hit : wanted last c right = true) :
    cutTop wanted (left ++ c :: right) = (left, some right) := by
  have found : findTop wanted (left ++ c :: right) = some left.length := by
    change findFrom wanted (top none) (left ++ c :: right) = _
    rw [find_from_append missed, reached]
    simp [findFrom, plain, hit]
  rw [cutTop, found]
  simp

theorem after_start_append (start rest : List Char) :
    afterStart? start (start ++ rest) = some rest := by
  induction start with
  | nil => rfl
  | cons c start induction => simpa [afterStart?] using induction

theorem eq_append_of_after_start {start text rest : List Char}
    (found : afterStart? start text = some rest) : text = start ++ rest := by
  induction start generalizing text with
  | nil =>
      cases found
      rfl
  | cons c start induction =>
      cases text with
      | nil => cases found
      | cons d text =>
          simp only [afterStart?] at found
          split at found
          · next same => rw [List.cons_append, ← induction found, beq_iff_eq.mp same]
          · cases found

theorem after_start_of_head {c : Char} {start text : List Char} (differs : text.head? ≠ some c) :
    afterStart? (c :: start) text = none := by
  cases text with
  | nil => rfl
  | cons d text =>
      have other : c ≠ d := fun same => differs (congrArg some same.symm)
      simp [afterStart?, other]

end Cutting

section AccessWords

/-- Characters of access words and of the blanks behind them. -/
def isDroppable (c : Char) : Bool := isBlank c || c.isLower

theorem access_words_lower : ∀ word ∈ accessWords, ∀ c ∈ word.toList, c.isLower = true := by decide

theorem after_access_word_eq_some {text rest : List Char}
    (found : afterAccessWord? text = some rest) :
    ∃ word ∈ accessWords, ∃ c more, isBlank c = true ∧ text = word.toList ++ [c] ++ more ∧
      rest = trimStart more := by
  obtain ⟨word, member, here⟩ := List.exists_of_findSome?_eq_some found
  split at here
  · next c more read =>
      split at here
      · next blank =>
          refine ⟨word, member, c, more, blank, ?_, (Option.some.inj here).symm⟩
          rw [eq_append_of_after_start read, List.append_assoc, List.singleton_append]
      · cases here
  · cases here

theorem trim_start_append (text : List Char) {rest : List Char}
    (stop : ∀ c, rest.head? = some c → isBlank c = false) :
    trimStart (text ++ rest) = trimStart text ++ rest := by
  have kept : trimStart rest = rest := by
    cases rest with
    | nil => rfl
    | cons c rest => exact trim_start_of_head rfl (stop c rfl)
  unfold trimStart at kept ⊢
  rw [List.dropWhile_append]
  split
  · next empty => rw [kept, List.isEmpty_iff.mp empty, List.nil_append]
  · rfl

/-- An access word and its blanks are dropped from a text whose rest stops them. -/
theorem after_access_word_append {text rest tail : List Char}
    (stop : ∀ c, rest.head? = some c → isDroppable c = false)
    (found : afterAccessWord? (text ++ rest) = some tail) :
    ∃ dropped kept, text = dropped ++ kept ∧ (∀ c ∈ dropped, isDroppable c = true) ∧
      tail = kept ++ rest := by
  obtain ⟨word, member, c, more, blank, split, rfl⟩ := after_access_word_eq_some found
  have droppable : ∀ d ∈ word.toList ++ [c], isDroppable d = true := by
    intro d inside
    rcases List.mem_append.mp inside with letter | single
    · simp [isDroppable, access_words_lower word member d letter]
    · simp [isDroppable, List.mem_singleton.mp single, blank]
  have filled (d : Char) (head : rest.head? = some d) : isBlank d = false := by
    have stopped := stop d head
    simp only [isDroppable, Bool.or_eq_false_iff] at stopped
    exact stopped.1
  rcases List.append_eq_append_iff.mp split with ⟨extra, whole, after⟩ | ⟨own, whole, after⟩
  · -- the word and its blank reach up to the rest, but not into it
    cases extra with
    | cons d extra =>
        have taken := droppable d (by rw [whole]; simp)
        rw [stop d (by rw [after]; rfl)] at taken
        cases taken
    | nil =>
        rw [List.append_nil] at whole
        rw [List.nil_append] at after
        refine ⟨text, [], (List.append_nil text).symm, by rwa [← whole], ?_⟩
        rw [← after]
        exact trim_start_append [] filled
  · refine ⟨word.toList ++ [c] ++ own.takeWhile isBlank, trimStart own, ?_, ?_, ?_⟩
    · rw [whole, List.append_assoc _ (own.takeWhile isBlank)]
      exact congrArg (word.toList ++ [c] ++ ·) List.takeWhile_append_dropWhile.symm
    · intro d inside
      rcases List.mem_append.mp inside with early | blanks
      · exact droppable d early
      · have skipped : isBlank d = true := List.all_eq_true.mp List.all_takeWhile d blanks
        simp [isDroppable, skipped]
    · rw [after, trim_start_append _ filled]

/-- Dropping access words stops before a character that is neither blank nor a letter. -/
theorem drop_access_words (count : Nat) (text rest : List Char)
    (stop : ∀ c, rest.head? = some c → isDroppable c = false) :
    ∃ dropped kept, text = dropped ++ kept ∧ (∀ c ∈ dropped, isDroppable c = true) ∧
      dropAccessWords count (text ++ rest) = kept ++ rest := by
  induction count generalizing text with
  | zero => exact ⟨[], text, rfl, by simp, rfl⟩
  | succ count induction =>
      rw [dropAccessWords]
      cases found : afterAccessWord? (text ++ rest) with
      | none => exact ⟨[], text, rfl, by simp, rfl⟩
      | some tail =>
          obtain ⟨first, middle, rfl, lower, rfl⟩ := after_access_word_append stop found
          obtain ⟨dropped, kept, rfl, lowerToo, dropping⟩ := induction middle
          refine ⟨first ++ dropped, kept, (List.append_assoc _ _ _).symm, ?_, dropping⟩
          intro c inside
          rcases List.mem_append.mp inside with early | late
          · exact lower c early
          · exact lowerToo c late

end AccessWords

section Names

/-- Characters of names: letters, digits, underscores, dollar signs, and everything outside ASCII
that is not blank. -/
def isNameChar (c : Char) : Bool :=
  c.isAlphanum || c == '_' || c == '$' || (128 ≤ c.toNat && !isBlank c)

def IsName (text : List Char) : Prop := text ≠ [] ∧ ∀ c ∈ text, isNameChar c = true

instance (text : List Char) : Decidable (IsName text) := inferInstanceAs (Decidable (_ ∧ _))

theorem name_char_ne {c d : Char} (named : isNameChar c = true) (other : isNameChar d = false) :
    c ≠ d := by
  rintro rfl
  rw [named] at other
  cases other

theorem name_char_filled {c : Char} (named : isNameChar c = true) : isBlank c = false := by
  delta isNameChar Char.isAlphanum Char.isAlpha Char.isUpper Char.isLower Char.isDigit at named
  simp only [Bool.or_eq_true, Bool.and_eq_true, beq_iff_eq, decide_eq_true_eq] at named
  rcases named with ((letter | rfl) | rfl) | ⟨-, filled⟩
  · have bounds : 48 ≤ c.toNat ∧ c.toNat ≤ 122 := by
      have code : c.toNat = c.val.toNat := rfl
      simp only [UInt32.le_iff_toNat_le, ge_iff_le] at letter
      simp at letter
      omega
    simp only [isBlank, Bool.or_eq_false_iff, Bool.and_eq_false_iff, decide_eq_false_iff_not,
      beq_eq_false_iff_ne]
    omega
  · decide
  · decide
  · simpa using filled

theorem name_char_plain {c : Char} (named : isNameChar c = true) :
    isQuote c = false ∧ isOpener c = false := by
  have other (d : Char) (punctuation : isNameChar d = false) : c ≠ d :=
    name_char_ne named punctuation
  simp only [isQuote, isOpener, Bool.or_eq_false_iff, beq_eq_false_iff_ne]
  exact ⟨⟨⟨other _ (by decide), other _ (by decide)⟩, other _ (by decide)⟩,
    ⟨⟨other _ (by decide), other _ (by decide)⟩, other _ (by decide)⟩, other _ (by decide)⟩

namespace IsName

variable {name : List Char}

theorem tight (named : IsName name) : Tight name := by
  obtain ⟨filled, chars⟩ := named
  refine ⟨⟨name.head filled, List.head?_eq_some_head filled, ?_⟩,
    name.getLast filled, List.getLast?_eq_some_getLast filled, ?_⟩
  · exact name_char_filled (chars _ (List.head_mem filled))
  · exact name_char_filled (chars _ (List.getLast_mem filled))

theorem clear (named : IsName name) {chars : List Char}
    (punctuation : ∀ c ∈ chars, isNameChar c = false) : Clear chars name :=
  .of_plain fun c member =>
    have plain := name_char_plain (named.2 c member)
    ⟨plain.1, plain.2, fun listed => name_char_ne (named.2 c member) (punctuation c listed) rfl⟩

theorem calm (named : IsName name) : ∀ c ∈ name, isCalm c = true := by
  intro c member
  have other (d : Char) (punctuation : isNameChar d = false) : c ≠ d :=
    name_char_ne (named.2 c member) punctuation
  simp only [isCalm, (name_char_plain (named.2 c member)).1, Bool.and_eq_true, bne_iff_ne,
    Bool.not_false, true_and]
  exact ⟨⟨other _ (by decide), other _ (by decide)⟩, other _ (by decide)⟩

theorem head_ne (named : IsName name) {c : Char} (punctuation : isNameChar c = false) :
    name.head? ≠ some c := by
  intro head
  exact name_char_ne (named.2 c (List.mem_of_mem_head? head)) punctuation rfl

theorem last_ne (named : IsName name) {c : Char} (punctuation : isNameChar c = false) :
    name.getLast? ≠ some c := by
  intro last
  exact name_char_ne (named.2 c (List.mem_of_mem_getLast? last)) punctuation rfl

/-- A name is not taken for an access word unless it is one. -/
theorem no_access_word (named : IsName name) (own : ∀ word ∈ accessWords, word.toList ≠ name)
    {rest : List Char} (stop : ∀ c, rest.head? = some c → c.isLower = false) :
    afterAccessWord? (name ++ rest) = none := by
  cases found : afterAccessWord? (name ++ rest) with
  | none => rfl
  | some tail =>
      exfalso
      obtain ⟨word, member, c, more, blank, split, -⟩ := after_access_word_eq_some found
      have outside : c ∉ name := fun inside => by
        have filled := name_char_filled (named.2 c inside)
        rw [blank] at filled
        cases filled
      rw [List.append_assoc] at split
      rcases List.append_eq_append_iff.mp split with ⟨extra, whole, after⟩ | ⟨part, whole, after⟩
      · cases extra with
        | nil => exact own word member (by simpa using whole)
        | cons d extra =>
            have lower := access_words_lower word member d (by rw [whole]; simp)
            rw [stop d (by rw [after]; rfl)] at lower
            cases lower
      · cases part with
        | nil => exact own word member (by simpa using whole.symm)
        | cons d part =>
            obtain ⟨rfl, -⟩ := List.cons.inj after
            exact outside (by rw [whole]; simp)

theorem drop_access_words (named : IsName name) (own : ∀ word ∈ accessWords, word.toList ≠ name)
    {rest : List Char} (stop : ∀ c, rest.head? = some c → c.isLower = false) (count : Nat) :
    dropAccessWords count (name ++ rest) = name ++ rest := by
  cases count with
  | zero => rfl
  | succ count => rw [dropAccessWords, named.no_access_word own stop]

end IsName

end Names

/-- What stands in front of a parameter that collects arguments. -/
inductive Marker where
  | plain
  | dots
  | star
  | stars
  deriving DecidableEq, Repr

def Marker.text : Marker → List Char
  | .plain => []
  | .dots => "...".toList
  | .star => "*".toList
  | .stars => "**".toList

/-- A parameter: its marker, what it binds, whether it is optional, its type and its default. -/
structure Param where
  marker : Marker
  binder : List Char
  optional : Bool
  type : Option (List Char)
  fallback : Option (List Char)

/-- What callers depend on: everything but the names, the blanks and the default values. -/
structure Contract where
  marker : Marker
  type : Option (List Char)
  optional : Bool
  defaulted : Bool
  deriving DecidableEq, Repr

/-- The canonical form of a contract; an underscore stands for a missing type. -/
def Contract.text (contract : Contract) : List Char :=
  contract.marker.text ++ contract.type.getD ['_'] ++
    ((if contract.optional then ['?'] else []) ++ (if contract.defaulted then ['='] else []))

/-- The blanks of one written parameter. -/
structure Layout where
  before : List Char
  afterMarker : List Char
  beforeMark : List Char
  beforeColon : List Char
  afterColon : List Char
  beforeEquals : List Char
  afterEquals : List Char
  after : List Char
  blank : ∀ blanks ∈ [before, afterMarker, beforeMark, beforeColon, afterColon, beforeEquals,
    afterEquals, after], AllBlank blanks

/-- A default value behind its equals sign. -/
def assignment (before after : List Char) : Option (List Char) → List Char
  | none => []
  | some value => before ++ '=' :: after ++ value

/-- The equals sign behind `head` does not touch what would make it a comparison or an arrow. -/
def Assigns (head before after : List Char) (fallback : Option (List Char)) : Prop :=
  ∀ value, fallback = some value →
    (before = [] → ∀ c, head.getLast? = some c → c ∉ ['=', '!', '<', '>']) ∧
      (after = [] → ∀ c, value.head? = some c → c ∉ ['=', '>'])

theorem Assigns.of_last {head other before after : List Char} {fallback : Option (List Char)}
    (assigns : Assigns head before after fallback) (same : other.getLast? = head.getLast?) :
    Assigns other before after fallback := by
  intro value present
  rw [same]
  exact assigns value present

/-- Blanks on both sides are enough. -/
theorem Assigns.of_blanks {before after : List Char} (spaced : before ≠ [] ∧ after ≠ [])
    (head : List Char) (fallback : Option (List Char)) : Assigns head before after fallback :=
  fun _ _ => ⟨fun bare => absurd bare spaced.1, fun bare => absurd bare spaced.2⟩

namespace Param

def markerText (param : Param) (layout : Layout) : List Char :=
  if param.marker = .plain then [] else param.marker.text ++ layout.afterMarker

def markText (param : Param) (layout : Layout) : List Char :=
  if param.optional then layout.beforeMark ++ ['?'] else []

def typeText (param : Param) (layout : Layout) : List Char :=
  match param.type with
  | none => []
  | some type => layout.beforeColon ++ ':' :: layout.afterColon ++ type

def fallbackText (param : Param) (layout : Layout) : List Char :=
  assignment layout.beforeEquals layout.afterEquals param.fallback

/-- The parameter without its marker and its default value. -/
def headText (param : Param) (layout : Layout) : List Char :=
  param.binder ++ param.markText layout ++ param.typeText layout

/-- The parameter behind its marker. -/
def namedText (param : Param) (layout : Layout) : List Char :=
  param.headText layout ++ param.fallbackText layout

/-- The layout keeps the equals sign apart. -/
def Spaced (param : Param) (layout : Layout) : Prop :=
  Assigns (param.headText layout) layout.beforeEquals layout.afterEquals param.fallback

/-- The written parameter, without the blanks around it. -/
def write (param : Param) (layout : Layout) : List Char :=
  param.markerText layout ++ param.namedText layout

def contract (param : Param) : Contract where
  marker := param.marker
  type := param.type.map collapse
  optional := param.optional
  defaulted := param.fallback.isSome

/-- A type that is read up to its end: it closes what it opens, and outside brackets and strings
has no comma and nothing that looks like an assignment. -/
structure TypeFits (type : List Char) : Prop where
  tight : Tight type
  level : Level type
  unassigned : findTop isAssign type = none
  start : type.head? ≠ some ':' ∧ type.head? ≠ some '='
  finish : type.getLast? ≠ some '='

/-- The parts of a parameter can be told apart. Without a type, what is bound is a plain name. -/
structure Fits (language : Option Language) (param : Param) : Prop where
  tight : Tight param.binder
  clear : Clear [',', ':', '='] param.binder
  start : param.binder.head? ≠ some '*' ∧ param.binder.head? ≠ some '.' ∧
    param.binder.head? ≠ some '/'
  finish : param.binder.getLast? ≠ some '?'
  typed : ∀ type, param.type = some type → TypeFits type
  given : ∀ value, param.fallback = some value → Tight value ∧ Level value
  named : param.type = none → IsName param.binder ∧
    (∀ word ∈ accessWords, word.toList ≠ param.binder) ∧ language ≠ some .rust
  uncommented : ∀ text ∈ param.binder :: (param.type.toList ++ param.fallback.toList),
    Uncommented language text

end Param

/-- What a parameter shows after its marker and access words are read. -/
def summary (text : List Char) : List Char :=
  let (bare, fallback) := cutTop isAssign text
  let (namePart, typePart) := cutTop isColon bare
  let trimmedName := trim namePart
  let plainName := trim (dropTrailing '?' trimmedName)
  let typeText := (typePart.map trim).getD []
  let shown :=
    if !typeText.isEmpty then collapse typeText
    else if plainName.head? == some '\x7b' || plainName.head? == some '[' then collapse plainName
    else ['_']
  shown ++ (if trimmedName.getLast? == some '?' then ['?'] else []) ++
    (if fallback.isSome then ['='] else [])

namespace Param

theorem mark_clear {chars : List Char} (param : Param) (layout : Layout)
    (filled : ∀ c ∈ chars, isBlank c = false) (other : '?' ∉ chars) :
    Clear chars (param.markText layout) := by
  unfold markText
  split
  · apply Clear.append (.of_blank (layout.blank layout.beforeMark (by simp)) filled)
    exact .of_plain fun c member => by
      cases List.mem_singleton.mp member
      exact ⟨rfl, rfl, other⟩
  · exact .nil

end Param

section Summary

theorem misses_assign {text : List Char} (unassigned : findTop isAssign text = none)
    (start : text.head? ≠ some '=') (finish : text.getLast? ≠ some '=') (last : Option Char)
    (rest : List Char) : Misses isAssign (top last) text rest := by
  have inside (place : Place) (text : List Char) (finish : text.getLast? ≠ some '=')
      (missed : Misses isAssign place text []) : Misses isAssign place text rest := by
    induction text generalizing place with
    | nil => trivial
    | cons c text induction =>
        obtain ⟨here, later⟩ := missed
        cases text with
        | nil =>
            have other : c ≠ '=' := fun same => finish (congrArg some same)
            exact ⟨by simp [isAssign, other], trivial⟩
        | cons d text =>
            refine ⟨here, induction (place.next c) ?_ later⟩
            simpa using finish
  cases text with
  | nil => trivial
  | cons c text =>
      have other : c ≠ '=' := fun same => start (congrArg some same)
      have missed := inside (top none) (c :: text) finish
        ((find_from_eq_none_iff isAssign _ _).mp unassigned)
      rw [Misses, next_top none last] at missed
      exact ⟨by simp [isAssign, other], missed.2⟩

theorem assign_is_equals (last : Option Char) (c : Char) (behind : List Char)
    (hit : isAssign last c behind = true) : isAnyOf ['='] last c behind = true := by
  simp only [isAssign, Bool.and_eq_true, beq_iff_eq] at hit
  simp [isAnyOf, hit.1.1]

theorem colon_is_colon (last : Option Char) (c : Char) (behind : List Char)
    (hit : isColon last c behind = true) : isAnyOf [':'] last c behind = true := by
  simp only [isColon, Bool.and_eq_true, beq_iff_eq] at hit
  simp [isAnyOf, hit.1]

theorem through_blanks {blanks : List Char} (blank : AllBlank blanks) (filled : blanks ≠ [])
    (last : Option Char) : ∃ c, isBlank c = true ∧ (top last).through blanks = top (some c) := by
  induction blanks generalizing last with
  | nil => exact absurd rfl filled
  | cons c blanks induction =>
      have here := blank c List.mem_cons_self
      have plain := blank_plain here
      rw [through_cons, next_plain last plain.1 plain.2]
      cases blanks with
      | nil => exact ⟨c, here, rfl⟩
      | cons d blanks =>
          exact induction (fun e member => blank e (List.mem_cons_of_mem c member))
            (List.cons_ne_nil d blanks) (some c)

theorem through_last {text : List Char} (filled : text ≠ []) (place : Place) :
    (place.through text).last = text.getLast? := by
  induction text generalizing place with
  | nil => exact absurd rfl filled
  | cons c text induction =>
      cases text with
      | nil => rfl
      | cons d text =>
          rw [through_cons, induction (List.cons_ne_nil d text)]
          simp [List.getLast?_eq_some_getLast]

variable {param : Param} {layout : Layout}

theorem before_equals {head before : List Char} (filled : head ≠ [])
    (closed : ((top none).through head).isTop = true) (blank : AllBlank before)
    (touches : before = [] → ∀ c, head.getLast? = some c → c ∉ ['=', '!', '<', '>']) :
    ∃ c, (top none).through (head ++ before) = top (some c) ∧ c ∉ ['=', '!', '<', '>'] := by
  have reached : (top none).through head = top head.getLast? := by
    rw [eq_top_of_is_top closed, through_last filled]
  by_cases spaced : before = []
  · refine ⟨head.getLast filled, ?_, ?_⟩
    · rw [spaced, List.append_nil, reached, List.getLast?_eq_some_getLast filled]
    · exact touches spaced _ (List.getLast?_eq_some_getLast filled)
  · obtain ⟨c, blank, final⟩ := through_blanks blank spaced head.getLast?
    refine ⟨c, by rw [through_append, reached, final], fun listed => ?_⟩
    have none_blank : ∀ d ∈ ['=', '!', '<', '>'], isBlank d = false := by decide
    exact ne_of_blank blank (none_blank c listed) rfl

theorem behind_equals {value after : List Char} (filled : value ≠ []) (blank : AllBlank after)
    (touches : after = [] → ∀ c, value.head? = some c → c ∉ ['=', '>']) :
    ∃ d rest, after ++ value = d :: rest ∧ d ∉ ['=', '>'] := by
  cases after with
  | nil =>
      obtain ⟨d, rest, whole⟩ := List.exists_cons_of_ne_nil filled
      exact ⟨d, rest, whole, touches rfl d (by rw [whole]; rfl)⟩
  | cons d after =>
      refine ⟨d, after ++ value, rfl, fun listed => ?_⟩
      have none_blank : ∀ d ∈ ['=', '>'], isBlank d = false := by decide
      exact ne_of_blank (blank d List.mem_cons_self) (none_blank d listed) rfl

/-- The default value is cut off, with blanks left in front of it. -/
theorem cut_assignment {head before after : List Char} {fallback : Option (List Char)}
    (filled : head ≠ []) (closed : ((top none).through head).isTop = true)
    (missed : ∀ rest, Misses isAssign (top none) head rest)
    (blankBefore : AllBlank before) (blankAfter : AllBlank after)
    (given : ∀ value, fallback = some value → value ≠ [])
    (assigns : Assigns head before after fallback) :
    ∃ blanks, AllBlank blanks ∧ ∃ value,
      cutTop isAssign (head ++ assignment before after fallback) = (head ++ blanks, value) ∧
      value.isSome = fallback.isSome := by
  cases fallback with
  | none =>
      refine ⟨[], all_blank_nil, none, ?_, rfl⟩
      simpa [assignment] using cut_top_missed (missed [])
  | some value =>
      obtain ⟨touchesBefore, touchesAfter⟩ := assigns value rfl
      obtain ⟨c, through, differs⟩ := before_equals filled closed blankBefore touchesBefore
      obtain ⟨d, rest, behind, differsToo⟩ :=
        behind_equals (given value rfl) blankAfter touchesAfter
      refine ⟨before, blankBefore, some (after ++ value), ?_, rfl⟩
      have passed : Misses isAssign (top none) (head ++ before) ('=' :: (after ++ value)) := by
        apply misses_append (missed _)
        apply misses_of_forall
        intro e member
        have other : e ≠ '=' := ne_of_blank (blankBefore e member) (by decide)
        simp [isAssign, other]
      have hit : isAssign (some c) '=' (after ++ value) = true := by
        simp only [List.mem_cons, List.not_mem_nil, or_false, not_or] at differs differsToo
        simp [isAssign, behind, differs, differsToo]
      have cut := cut_top_found passed through (by decide) hit
      simpa [assignment] using cut

theorem colon_clear {chars : List Char} (other : ':' ∉ chars) : Clear chars [':'] :=
  .of_plain fun c member => by
    cases List.mem_singleton.mp member
    exact ⟨rfl, rfl, other⟩

/-- With a type, what stands before the colon only tells whether the parameter is optional. -/
theorem summary_typed {kept type : List Char} (clear : Clear [':', '='] kept)
    (fits : Param.TypeFits type) (given : ∀ value, param.fallback = some value → value ≠ [])
    (assigns : Assigns type layout.beforeEquals layout.afterEquals param.fallback) :
    summary (kept ++ [':'] ++ layout.afterColon ++ type ++ param.fallbackText layout) =
      collapse type ++ (if (trim kept).getLast? = some '?' then ['?'] else []) ++
        (if param.fallback.isSome then ['='] else []) := by
  have blankColon := layout.blank layout.afterColon (by simp)
  have closed : Clear [] (kept ++ [':'] ++ layout.afterColon ++ type) :=
    (((clear.mono (by simp)).append (colon_clear (by simp))).append
      (.of_blank blankColon (by simp))).append (fits.level.mono (by simp))
  have ended := List.getLast?_append_of_ne_nil (kept ++ [':'] ++ layout.afterColon) fits.tight.ne_nil
  have flat : Clear ['='] (kept ++ [':'] ++ layout.afterColon) :=
    ((clear.mono (by simp)).append (colon_clear (by decide))).append
      (.of_blank blankColon (by decide))
  have missed (rest : List Char) :
      Misses isAssign (top none) (kept ++ [':'] ++ layout.afterColon ++ type) rest := by
    obtain ⟨middle, before⟩ := flat.through none
    apply misses_append (misses_of_imp assign_is_equals (flat.misses none _))
    rw [before]
    exact misses_assign fits.unassigned fits.start.2 fits.finish middle rest
  obtain ⟨blanks, blank, value, cut, shown⟩ := cut_assignment (by simp) closed.closed missed
    (layout.blank layout.beforeEquals (by simp)) (layout.blank layout.afterEquals (by simp)) given
    (assigns.of_last ended)
  change cutTop isAssign (_ ++ param.fallbackText layout) = _ at cut
  obtain ⟨middle, before⟩ := clear.through none
  have single : (layout.afterColon ++ type ++ blanks).head? ≠ some ':' := by
    cases around : layout.afterColon with
    | nil =>
        obtain ⟨c, more, whole⟩ := List.exists_cons_of_ne_nil fits.tight.ne_nil
        have first := fits.start.1
        rw [whole] at first ⊢
        exact first
    | cons c more =>
        have spaced : isBlank c = true := blankColon c (by rw [around]; exact List.mem_cons_self)
        intro colon
        exact ne_of_blank spaced (by decide) (Option.some.inj colon)
  have hit : isColon middle ':' (layout.afterColon ++ type ++ blanks) = true := by
    simp only [isColon, Bool.and_eq_true, beq_self_eq_true, true_and]
    simpa using single
  have found := cut_top_found
    (misses_of_imp colon_is_colon ((clear.mono (by simp)).misses none _)) before (by decide) hit
  have trimmed : trim (layout.afterColon ++ type ++ blanks) = type :=
    trim_around fits.tight blankColon blank
  have split : kept ++ [':'] ++ layout.afterColon ++ type ++ blanks =
      kept ++ ':' :: (layout.afterColon ++ type ++ blanks) := by simp
  rw [← shown]
  simp only [summary, cut, split, found, Option.map_some, Option.getD_some, trimmed]
  have filled : type.isEmpty = false := by simpa using fits.tight.ne_nil
  simp [filled]

theorem drop_trailing_of_last {text : List Char} {c : Char} (finish : text.getLast? ≠ some c) :
    dropTrailing c text = text := by
  rw [List.getLast?_eq_head?_reverse] at finish
  cases turned : text.reverse with
  | nil => rw [dropTrailing, turned, List.dropWhile_nil, ← turned, List.reverse_reverse]
  | cons d rest =>
      have other : d ≠ c := fun same => finish (by rw [turned, same]; rfl)
      rw [dropTrailing, turned, List.dropWhile_cons_of_neg (by simpa using other), ← turned,
        List.reverse_reverse]

theorem drop_trailing_concat (c : Char) (text : List Char) :
    dropTrailing c (text ++ [c]) = dropTrailing c text := by
  simp [dropTrailing]

/-- Without a type, a plain name leaves its place only. -/
theorem summary_named {name : List Char} (named : IsName name)
    (given : ∀ value, param.fallback = some value → value ≠ [])
    (assigns : Assigns (name ++ param.markText layout) layout.beforeEquals layout.afterEquals
      param.fallback) :
    summary (name ++ param.markText layout ++ param.fallbackText layout) =
      ['_'] ++ (if param.optional then ['?'] else []) ++
        (if param.fallback.isSome then ['='] else []) := by
  have blankMark := layout.blank layout.beforeMark (by simp)
  have flat : Clear [':', '='] (name ++ param.markText layout) :=
    (named.clear (by decide)).append (param.mark_clear layout (by decide) (by decide))
  obtain ⟨blanks, blank, value, cut, shown⟩ := cut_assignment (by simp [named.1]) flat.closed
    (fun rest => misses_of_imp assign_is_equals ((flat.mono (by simp)).misses none rest))
    (layout.blank layout.beforeEquals (by simp)) (layout.blank layout.afterEquals (by simp)) given
    assigns
  change cutTop isAssign (_ ++ param.fallbackText layout) = _ at cut
  have colon : cutTop isColon (name ++ param.markText layout ++ blanks) =
      (name ++ param.markText layout ++ blanks, none) := by
    apply cut_top_missed
    have whole : Clear [':'] (name ++ param.markText layout ++ blanks) :=
      (flat.mono (by simp)).append (.of_blank blank (by decide))
    exact misses_of_imp colon_is_colon (whole.misses none [])
  have brace : name.head? ≠ some '\x7b' := named.head_ne (by decide)
  have bracket : name.head? ≠ some '[' := named.head_ne (by decide)
  rw [← shown]
  simp only [summary, cut, colon, Option.map_none, Option.getD_none]
  cases optional : param.optional with
  | false =>
      have trimmed : trim (name ++ param.markText layout ++ blanks) = name := by
        simpa [Param.markText, optional] using trim_around named.tight all_blank_nil blank
      have last : name.getLast? ≠ some '?' := named.last_ne (by decide)
      rw [trimmed, drop_trailing_of_last last, trim_tight named.tight]
      simp [brace, bracket, last]
  | true =>
      have tight : Tight (name ++ layout.beforeMark ++ ['?']) :=
        named.tight.append _ (by decide)
      have trimmed : trim (name ++ param.markText layout ++ blanks) =
          name ++ layout.beforeMark ++ ['?'] := by
        simpa [Param.markText, optional] using trim_around tight all_blank_nil blank
      have before : (name ++ layout.beforeMark).getLast? ≠ some '?' := by
        intro last
        rcases List.mem_append.mp (List.mem_of_mem_getLast? last) with inName | inBlanks
        · exact name_char_ne (named.2 _ inName) (by decide) rfl
        · exact ne_of_blank (blankMark _ inBlanks) (by decide) rfl
      have bare : trim (name ++ layout.beforeMark) = name :=
        by simpa using trim_around named.tight all_blank_nil blankMark
      rw [trimmed, drop_trailing_concat, drop_trailing_of_last before, bare]
      simp [brace, bracket]

end Summary

/-- Reading the marker leaves the rest of the parameter. -/
theorem split_marker (marker : Marker) {blanks named : List Char} (blank : AllBlank blanks)
    (tight : ∃ c, named.head? = some c ∧ isBlank c = false)
    (start : named.head? ≠ some '*' ∧ named.head? ≠ some '.') :
    splitMarker ((if marker = .plain then [] else marker.text ++ blanks) ++ named) =
      (marker.text, named) := by
  obtain ⟨c, head, filled⟩ := tight
  have trimmed : trimStart (blanks ++ named) = named := by
    rw [trim_start_blanks blank, trim_start_of_head head filled]
  have second : (blanks ++ named).head? ≠ some '*' := by
    cases blanks with
    | nil => exact start.1
    | cons d blanks =>
        intro star
        exact ne_of_blank (blank d List.mem_cons_self) (by decide) (Option.some.inj star)
  cases marker with
  | plain =>
      have dots : afterStart? "...".toList named = none := after_start_of_head start.2
      have stars : afterStart? "**".toList named = none := after_start_of_head start.1
      have star : afterStart? "*".toList named = none := after_start_of_head start.1
      simp only [splitMarker, Marker.text, if_true, List.nil_append, dots, stars, star]
  | dots =>
      have dots : afterStart? "...".toList ("...".toList ++ (blanks ++ named)) =
          some (blanks ++ named) := after_start_append _ _
      simp only [splitMarker, Marker.text, reduceCtorEq, if_false, List.append_assoc, dots, trimmed]
  | stars =>
      have dots : afterStart? "...".toList ("**".toList ++ (blanks ++ named)) = none := rfl
      have stars : afterStart? "**".toList ("**".toList ++ (blanks ++ named)) =
          some (blanks ++ named) := after_start_append _ _
      simp only [splitMarker, Marker.text, reduceCtorEq, if_false, List.append_assoc, dots, stars,
        trimmed]
  | star =>
      have dots : afterStart? "...".toList ("*".toList ++ (blanks ++ named)) = none := rfl
      have stars : afterStart? "**".toList ("*".toList ++ (blanks ++ named)) = none :=
        (after_start_of_head second : afterStart? ['*'] (blanks ++ named) = none)
      have star : afterStart? "*".toList ("*".toList ++ (blanks ++ named)) =
          some (blanks ++ named) := after_start_append _ _
      simp only [splitMarker, Marker.text, reduceCtorEq, if_false, List.append_assoc, dots, stars,
        star, trimmed]

namespace Param

variable {language : Option Language} {param : Param}

theorem named_tight (fits : param.Fits language) (layout : Layout) :
    Tight (param.namedText layout) := by
  have marked : Tight (param.binder ++ param.markText layout) := by
    unfold markText
    split
    · rw [← List.append_assoc]
      exact fits.tight.append _ (by decide)
    · rw [List.append_nil]
      exact fits.tight
  have typed : Tight (param.binder ++ param.markText layout ++ param.typeText layout) := by
    unfold typeText
    cases present : param.type with
    | none =>
        rw [List.append_nil]
        exact marked
    | some type =>
        have tight := marked.append (layout.beforeColon ++ ':' :: layout.afterColon)
          (fits.typed type present).tight
        simpa using tight
  unfold namedText fallbackText headText assignment
  cases given : param.fallback with
  | none =>
      rw [List.append_nil]
      exact typed
  | some value =>
      have tight := typed.append (layout.beforeEquals ++ '=' :: layout.afterEquals)
        (fits.given value given).1
      simpa using tight

theorem head_named (fits : param.Fits language) (layout : Layout) :
    (param.namedText layout).head? = param.binder.head? := by
  obtain ⟨c, more, whole⟩ := List.exists_cons_of_ne_nil fits.tight.ne_nil
  simp [namedText, headText, whole]

theorem marker_tight {marker : Marker} (present : marker ≠ .plain) : Tight marker.text := by
  cases marker with
  | plain => exact absurd rfl present
  | dots => decide
  | star => decide
  | stars => decide

theorem write_tight (fits : param.Fits language) (layout : Layout) : Tight (param.write layout) := by
  unfold write markerText
  split
  · exact named_tight fits layout
  · next present => exact (marker_tight present).append _ (named_tight fits layout)

/-- No written parameter is a separator that stands for itself. -/
theorem write_ne (fits : param.Fits language) (layout : Layout) :
    param.write layout ≠ ['*'] ∧ param.write layout ≠ ['/'] := by
  have filled := (named_tight fits layout).ne_nil
  have head := head_named fits layout
  unfold write markerText
  split
  · rw [List.nil_append]
    constructor <;> intro same <;> rw [same] at head
    · exact fits.start.1 head.symm
    · exact fits.start.2.2 head.symm
  · next present =>
      have longer (c : Char) (same : param.marker.text ++ layout.afterMarker ++
          param.namedText layout = [c]) : False := by
        obtain ⟨d, more, text⟩ := List.exists_cons_of_ne_nil (marker_tight present).ne_nil
        rw [text, List.cons_append, List.cons_append] at same
        exact filled (List.append_eq_nil_iff.mp (List.cons.inj same).2).2
      exact ⟨longer '*', longer '/'⟩

/-- The last character before the colon that is not blank is a question mark iff the parameter is
optional. -/
theorem last_marked (fits : param.Fits language) (layout : Layout) :
    (param.binder ++ param.markText layout ++ layout.beforeColon).reverse.find? (!isBlank ·) =
      if param.optional then some '?' else param.binder.getLast? := by
  have skipped : layout.beforeColon.reverse.find? (!isBlank ·) = none := by
    rw [List.find?_eq_none]
    intro c member
    have blank := layout.blank layout.beforeColon (by simp) c (List.mem_reverse.mp member)
    simp [blank]
  rw [List.reverse_append, List.find?_append, skipped, Option.none_or]
  unfold markText
  split
  · simp [show isBlank '?' = false by decide]
  · rw [List.append_nil, ← last_trim, trim_tight fits.tight]

theorem droppable_clear {text : List Char} (droppable : ∀ c ∈ text, isDroppable c = true) :
    Clear [':', '='] text := by
  refine .of_plain fun c member => ?_
  have known := droppable c member
  have other (d : Char) (stays : isDroppable d = false) : c ≠ d := by
    rintro rfl
    rw [known] at stays
    cases stays
  simp only [isQuote, isOpener, Bool.or_eq_false_iff, beq_eq_false_iff_ne, List.mem_cons,
    List.not_mem_nil, or_false, not_or]
  exact ⟨⟨⟨other _ (by decide), other _ (by decide)⟩, other _ (by decide)⟩,
    ⟨⟨⟨other _ (by decide), other _ (by decide)⟩, other _ (by decide)⟩, other _ (by decide)⟩,
    other _ (by decide), other _ (by decide)⟩

/-- What is kept of the text before the colon still tells whether the parameter is optional. -/
theorem kept_mark (fits : param.Fits language) (layout : Layout) {dropped kept : List Char}
    (split : param.binder ++ param.markText layout ++ layout.beforeColon = dropped ++ kept)
    (droppable : ∀ c ∈ dropped, isDroppable c = true) :
    (trim kept).getLast? = some '?' ↔ param.optional = true := by
  have last := last_marked fits layout
  rw [split, List.reverse_append, List.find?_append] at last
  rw [last_trim]
  cases found : kept.reverse.find? (!isBlank ·) with
  | some c =>
      rw [found, Option.some_or] at last
      rw [last]
      split
      · simp_all
      · simp_all [fits.finish]
  | none =>
      rw [found, Option.none_or] at last
      cases optional : param.optional with
      | false => simp
      | true =>
          -- the question mark would have been dropped
          rw [optional, if_pos rfl] at last
          have inside := droppable '?' (List.mem_reverse.mp (List.mem_of_find?_eq_some last))
          exact absurd inside (by decide)

/-- With a type, dropping access words keeps all that is shown. -/
theorem summary_dropped (fits : param.Fits language) {layout : Layout}
    (spaced : param.Spaced layout) {type : List Char} (present : param.type = some type)
    (count : Nat) :
    summary (dropAccessWords count (param.namedText layout)) =
      collapse type ++ (if param.optional then ['?'] else []) ++
        (if param.fallback.isSome then ['='] else []) := by
  let before := param.binder ++ param.markText layout ++ layout.beforeColon
  let behind := ':' :: (layout.afterColon ++ type ++ param.fallbackText layout)
  have whole : param.namedText layout = before ++ behind := by
    simp [namedText, headText, typeText, present, before, behind]
  obtain ⟨dropped, kept, split, droppable, dropping⟩ := drop_access_words count before behind (by
    intro c head
    cases head
    decide)
  have clearBefore : Clear [':', '='] before :=
    ((fits.clear.mono (by simp)).append (param.mark_clear layout (by decide) (by decide))).append
      (.of_blank (layout.blank layout.beforeColon (by simp)) (by decide))
  have clearKept : Clear [':', '='] kept :=
    (droppable_clear droppable).of_append (split ▸ clearBefore)
  have mark := kept_mark fits layout split droppable
  have shape : kept ++ behind =
      kept ++ [':'] ++ layout.afterColon ++ type ++ param.fallbackText layout := by simp [behind]
  have ended : (param.headText layout).getLast? = type.getLast? := by
    have text : param.headText layout = param.binder ++ param.markText layout ++
        (layout.beforeColon ++ ':' :: layout.afterColon) ++ type := by
      simp [headText, typeText, present]
    rw [text, List.getLast?_append_of_ne_nil _ (fits.typed type present).tight.ne_nil]
  rw [whole, dropping, shape, summary_typed clearKept (fits.typed type present)
    (fun value given => (fits.given value given).1.ne_nil) (spaced.of_last ended.symm)]
  simp only [mark]

theorem head_blanks {blanks rest : List Char} {c d : Char} (blank : AllBlank blanks)
    (head : (blanks ++ d :: rest).head? = some c) : isBlank c = true ∨ c = d := by
  cases blanks with
  | nil => exact .inr (Option.some.inj head).symm
  | cons e blanks =>
      obtain rfl := Option.some.inj head
      exact .inl (blank e List.mem_cons_self)

/-- No letter follows the name of a parameter without a type. -/
theorem head_after_name (param : Param) (layout : Layout) {c : Char}
    (head : (param.markText layout ++ param.fallbackText layout).head? = some c) :
    c.isLower = false := by
  have spaced (blank : isBlank c = true) : c.isLower = false := by
    cases lower : c.isLower with
    | false => rfl
    | true =>
        have named : isNameChar c = true := by
          delta isNameChar Char.isAlphanum Char.isAlpha
          simp [lower]
        rw [name_char_filled named] at blank
        cases blank
  unfold markText fallbackText assignment at head
  split at head
  · rw [List.append_assoc] at head
    rcases head_blanks (layout.blank layout.beforeMark (by simp)) head with blank | rfl
    · exact spaced blank
    · decide
  · cases given : param.fallback with
    | none => simp [given] at head
    | some value =>
        rw [given, List.nil_append] at head
        simp only [List.append_assoc] at head
        rcases head_blanks (layout.blank layout.beforeEquals (by simp)) head with blank | rfl
        · exact spaced blank
        · decide

/-- A parameter with a type is no receiver. -/
theorem no_receiver (layout : Layout) (present : param.type ≠ none) :
    receivers.any (·.toList == collapse (param.write layout)) = false := by
  obtain ⟨type, some'⟩ := Option.ne_none_iff_exists'.mp present
  have inside : ':' ∈ param.write layout := by simp [write, namedText, headText, typeText, some']
  have colon := mem_collapse inside (by decide)
  rw [List.any_eq_false]
  intro receiver member same
  rw [← beq_iff_eq.mp same] at colon
  have none_has : ∀ receiver ∈ receivers, ':' ∉ receiver.toList := by decide
  exact none_has receiver member colon

theorem normalize_colon (fits : param.Fits language) {layout : Layout}
    (spaced : param.Spaced layout) :
    normalizeColon language (param.write layout) = param.contract.text := by
  have trimmed := trim_tight (write_tight fits layout)
  have separators := write_ne fits layout
  have receiver : (language == some .rust &&
      receivers.any (·.toList == collapse (param.write layout))) = false := by
    by_cases rust : language = some .rust
    · rw [no_receiver layout fun absent => (fits.named absent).2.2 rust, Bool.and_false]
    · simp [rust]
  obtain ⟨c, head, filled⟩ := (named_tight fits layout).1
  have named := head_named fits layout
  have marker : splitMarker (param.write layout) = (param.marker.text, param.namedText layout) := by
    apply split_marker param.marker (layout.blank layout.afterMarker (by simp)) ⟨c, head, filled⟩
    rw [named]
    exact ⟨fits.start.1, fits.start.2.1⟩
  have read : normalizeColon language (param.write layout) = param.marker.text ++
      summary (dropAccessWords (param.namedText layout).length (param.namedText layout)) := by
    simp only [normalizeColon, trimmed, receiver, marker]
    simp [separators, summary]
  rw [read]
  cases present : param.type with
  | some type =>
      rw [summary_dropped fits spaced present]
      simp [contract, Contract.text, present]
  | none =>
      obtain ⟨name, own, -⟩ := fits.named present
      have text : param.namedText layout =
          param.binder ++ (param.markText layout ++ param.fallbackText layout) := by
        simp [namedText, headText, typeText, present]
      have assigns : Assigns (param.binder ++ param.markText layout) layout.beforeEquals
          layout.afterEquals param.fallback := spaced.of_last (by simp [headText, typeText, present])
      rw [text, name.drop_access_words own, ← List.append_assoc,
        summary_named name (fun value given => (fits.given value given).1.ne_nil) assigns]
      · simp [contract, Contract.text, present]
      · intro d first
        exact head_after_name param layout first

theorem marker_level (marker : Marker) : Level marker.text := by
  cases marker <;> decide

theorem write_level (fits : param.Fits language) (layout : Layout) : Level (param.write layout) := by
  have blanks (text : List Char) (listed : text ∈ [layout.before, layout.afterMarker,
      layout.beforeMark, layout.beforeColon, layout.afterColon, layout.beforeEquals,
      layout.afterEquals, layout.after]) : Level text :=
    .of_blank (layout.blank text listed) (by decide)
  have marker : Level (param.markerText layout) := by
    unfold markerText
    split
    · exact .nil
    · exact (marker_level param.marker).append (blanks _ (by simp))
  have type : Level (param.typeText layout) := by
    unfold typeText
    cases present : param.type with
    | none => exact .nil
    | some type =>
        exact ((blanks _ (by simp)).append ((colon_clear (by decide)).append
          (blanks layout.afterColon (by simp)))).append (fits.typed type present).level
  have fallback : Level (param.fallbackText layout) := by
    unfold fallbackText assignment
    cases given : param.fallback with
    | none => exact .nil
    | some value =>
        exact ((blanks _ (by simp)).append (Clear.append (by decide : Level ['='])
          (blanks layout.afterEquals (by simp)))).append (fits.given value given).2
  have binder : Level param.binder := fits.clear.mono (by simp)
  exact marker.append (((binder.append (param.mark_clear layout (by decide) (by decide))).append
    type).append fallback)

theorem marked_uncommented (fits : param.Fits language) (layout : Layout) :
    Uncommented language (param.binder ++ param.markText layout) := by
  apply (fits.uncommented param.binder (by simp)).append_calm
  unfold markText
  split
  · exact calm_between_blanks (by decide) (layout.blank layout.beforeMark (by simp))
      all_blank_nil
  · simp

theorem head_uncommented (fits : param.Fits language) (layout : Layout) :
    Uncommented language (param.headText layout) := by
  unfold headText typeText
  cases present : param.type with
  | none =>
      rw [List.append_nil]
      exact marked_uncommented fits layout
  | some type =>
      have colon := calm_between_blanks (c := ':') (by decide)
        (layout.blank layout.beforeColon (by simp)) (layout.blank layout.afterColon (by simp))
      have read := (marked_uncommented fits layout).around_calm colon (by simp)
        (fits.uncommented type (by simp [present]))
      simpa using read

theorem named_uncommented (fits : param.Fits language) (layout : Layout) :
    Uncommented language (param.namedText layout) := by
  unfold namedText fallbackText assignment
  cases given : param.fallback with
  | none =>
      rw [List.append_nil]
      exact head_uncommented fits layout
  | some value =>
      have equals := calm_between_blanks (c := '=') (by decide)
        (layout.blank layout.beforeEquals (by simp)) (layout.blank layout.afterEquals (by simp))
      have read := (head_uncommented fits layout).around_calm equals (by simp)
        (fits.uncommented value (by simp [given]))
      simpa using read

theorem write_uncommented (fits : param.Fits language) (layout : Layout) :
    Uncommented language (param.write layout) := by
  have named := named_uncommented fits layout
  unfold write markerText
  split
  · exact named
  · have quiet : ∀ c ∈ param.marker.text, isQuote c = false ∧ c ≠ '/' ∧ c ≠ '#' := by
      cases param.marker <;> decide
    rw [List.append_assoc]
    refine (Uncommented.of_quiet quiet).append
      (.calm_append (all_blank_calm (layout.blank layout.afterMarker (by simp))) named)
      (.inl fun c last => ?_)
    obtain ⟨quote, slash, -⟩ := quiet c (List.mem_of_mem_getLast? last)
    refine ⟨slash, fun member => ?_⟩
    rw [quotes_are_quotes member] at quote
    cases quote

theorem head_write_ne (fits : param.Fits language) (layout : Layout)
    (bare : param.binder.head? ≠ some '(') : (param.write layout).head? ≠ some '(' := by
  unfold write markerText
  split
  · rw [List.nil_append, head_named fits layout]
    exact bare
  · next present => cases marker : param.marker <;> simp_all [Marker.text]

/-- A parameter as one piece of a list. -/
def piece (param : Param) (layout : Layout) (fits : param.Fits language) : Piece language where
  before := layout.before
  core := param.write layout
  after := layout.after
  blankBefore := layout.blank layout.before (by simp)
  blankAfter := layout.blank layout.after (by simp)
  tight := write_tight fits layout
  level := write_level fits layout
  uncommented := write_uncommented fits layout

end Param


end EditImpact.Signature
