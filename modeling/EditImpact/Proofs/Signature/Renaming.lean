import EditImpact.Proofs.Signature.ColonParams
import EditImpact.Proofs.Source.Words

/-!
# Renaming parameters

What remains of a parameter list when its names are taken away decides its canonical form, with one
exception: where several names share a type that is written behind the last of them, the names in
front of it are taken for types. `renaming_kept_iff_shared_names_kept` says that two lists that
differ in names, default values and blanks only have the same canonical form exactly when those
shared names are the same.
-/

namespace EditImpact.Signature

open Source Text Place

set_option autoImplicit false

section TypeFirst

/-- A parameter that begins with its type: the type with its modifiers and annotations, a word that
holds the name, and a default value. -/
structure Declared where
  type : List Char
  gap : List Char
  declarator : List Char
  beforeEquals : List Char
  afterEquals : List Char
  fallback : Option (List Char)

/-- The words of a type that count. -/
def typeWords (text : List Char) : List (List Char) :=
  (blankWords text).filter fun word => word.head? != some '@' && word != "final".toList

namespace Declared

def head (declared : Declared) : List Char :=
  declared.type ++ declared.gap ++ declared.declarator

def write (declared : Declared) : List Char :=
  declared.head ++ assignment declared.beforeEquals declared.afterEquals declared.fallback

/-- The parts can be told apart. The name is no annotation and no modifier. -/
structure Fits (declared : Declared) : Prop where
  told : typeWords declared.type ≠ []
  level : Level declared.type
  unassigned : findTop isAssign declared.type = none
  edges : declared.type.head? ≠ some '=' ∧ declared.type.getLast? ≠ some '='
  blank : ∀ blanks ∈ [declared.gap, declared.beforeEquals, declared.afterEquals], AllBlank blanks
  spaced : declared.gap ≠ []
  word : declared.declarator ≠ [] ∧ ∀ c ∈ declared.declarator, isBlank c = false
  clear : Clear ['='] declared.declarator
  own : declared.declarator.head? ≠ some '@' ∧ declared.declarator ≠ "final".toList
  given : ∀ value, declared.fallback = some value → value ≠ []
  assigns : Assigns declared.head declared.beforeEquals declared.afterEquals declared.fallback

variable {declared : Declared}

theorem cut_head (fits : declared.Fits) :
    ∃ blanks, AllBlank blanks ∧ ∃ value,
      cutTop isAssign declared.write = (declared.head ++ blanks, value) ∧
        value.isSome = declared.fallback.isSome := by
  have gap : Clear ['='] declared.gap := .of_blank (fits.blank _ (by simp)) (by decide)
  have named : Clear ['='] (declared.gap ++ declared.declarator) := gap.append fits.clear
  have closed : Clear [] declared.head := by
    rw [head, List.append_assoc]
    exact (fits.level.mono (by simp)).append (named.mono (by simp))
  apply cut_assignment _ closed.closed _ (fits.blank _ (by simp)) (fits.blank _ (by simp))
    fits.given fits.assigns
  · simp [head, fits.spaced]
  · intro rest
    obtain ⟨middle, reached⟩ := fits.level.through none
    rw [head, List.append_assoc]
    apply misses_append (misses_assign fits.unassigned fits.edges.1 fits.edges.2 none _)
    rw [reached]
    exact misses_of_imp assign_is_equals (named.misses middle rest)

theorem words_head (fits : declared.Fits) {blanks : List Char} (blank : AllBlank blanks) :
    typeWords (declared.head ++ blanks) = typeWords declared.type ++ [declared.declarator] := by
  have name : blankWords declared.declarator = [declared.declarator] :=
    blank_words_word fits.word.1 fits.word.2
  have kept : (declared.declarator.head? != some '@' &&
      declared.declarator != "final".toList) = true := by
    rw [Bool.and_eq_true]
    exact ⟨bne_iff_ne.mpr fits.own.1, bne_iff_ne.mpr fits.own.2⟩
  rw [typeWords, blank_words_append_blanks blank, head,
    blank_words_around (fits.blank _ (by simp)) fits.spaced, name, List.filter_append]
  simp only [List.filter_cons, kept, List.filter_nil, if_true, typeWords]

/-- The name, the last word, is dropped. -/
theorem normalize_type_first (fits : declared.Fits) (tight : Tight declared.write) :
    normalizeTypeFirst declared.write = collapse (joinWith [' '] (typeWords declared.type)) ++
      (if declared.fallback.isSome then ['='] else []) := by
  obtain ⟨blanks, blank, value, cut, shown⟩ := cut_head fits
  have words := words_head fits blank
  have two : 2 ≤ (typeWords declared.type ++ [declared.declarator]).length := by
    have some' := List.length_pos_iff.mpr fits.told
    rw [List.length_append, List.length_singleton]
    omega
  unfold typeWords at words two
  simp only [normalizeTypeFirst, trim_tight tight, cut, words, if_pos two, List.dropLast_concat]
  rw [shown]
  rfl

end Declared

end TypeFirst

section NameFirst

/-- A parameter that begins with its name. -/
structure Named where
  name : List Char
  gap : List Char
  type : List Char

namespace Named

def write (named : Named) : List Char := named.name ++ named.gap ++ named.type

structure Fits (named : Named) : Prop where
  name : IsName named.name
  blank : AllBlank named.gap
  spaced : named.gap ≠ []
  type : Tight named.type

/-- The name, the first word, is dropped. -/
theorem normalize_name_first {named : Named} (fits : named.Fits) :
    normalizeNameFirst named.write = collapse (joinWith [' '] (blankWords named.type)) := by
  have name : blankWords named.name = [named.name] :=
    blank_words_word fits.name.1 fun c member => name_char_filled (fits.name.2 c member)
  have type : blankWords named.type ≠ [] := blank_words_tight fits.type
  have words : blankWords named.write = named.name :: blankWords named.type := by
    rw [write, blank_words_around fits.blank fits.spaced, name]
    rfl
  have two : 2 ≤ (named.name :: blankWords named.type).length := by
    have some' := List.length_pos_iff.mpr type
    rw [List.length_cons]
    omega
  rw [normalizeNameFirst, words, if_pos two]
  rfl

end Named

/-- A name on its own is taken for a type. -/
theorem normalize_shared {name : List Char} (named : IsName name) :
    normalizeNameFirst name = name := by
  have filled (c : Char) (member : c ∈ name) : isBlank c = false :=
    name_char_filled (named.2 c member)
  rw [normalizeNameFirst, blank_words_word named.1 filled]
  exact collapse_unspaced filled

end NameFirst

theorem name_first_is_go {language : Option Language}
    (style : ParamStyle.of language = .nameFirst) : language = some .go := by
  unfold ParamStyle.of at style
  split at style <;> first | rfl | cases style

/-- How the text of one parameter is read in a language. -/
inductive Reading (language : Option Language) : List Char → Type where
  | colon (param : Param) (layout : Layout) (style : ParamStyle.of language = .colon)
      (fits : param.Fits language) (spaced : param.Spaced layout) :
      Reading language (param.write layout)
  | typeFirst (declared : Declared) (style : ParamStyle.of language = .typeFirst)
      (fits : declared.Fits) : Reading language declared.write
  | nameFirst (named : Named) (style : ParamStyle.of language = .nameFirst) (fits : named.Fits) :
      Reading language named.write
  /-- A name whose type is written behind a later name. -/
  | shared (name : List Char) (style : ParamStyle.of language = .nameFirst) (named : IsName name) :
      Reading language name
  /-- A text without a name to change, such as a receiver or a type alone. -/
  | fixed (text : List Char) : Reading language text

/-- What remains of a parameter without its name, its default value and its blanks. -/
inductive Anonymous where
  | colon (contract : Contract)
  | typeFirst (words : List (List Char)) (defaulted : Bool)
  | nameFirst (words : List (List Char))
  | shared
  | fixed (text : List Char)
  deriving DecidableEq, Repr

namespace Reading

variable {language : Option Language} {text : List Char}

def anonymous : Reading language text → Anonymous
  | colon param _ _ _ _ => .colon param.contract
  | typeFirst declared _ _ => .typeFirst (typeWords declared.type) declared.fallback.isSome
  | nameFirst named _ _ => .nameFirst (blankWords named.type)
  | shared _ _ _ => .shared
  | fixed text => .fixed text

/-- The name that shares the type of a later one. -/
def sharedName : Reading language text → Option (List Char)
  | shared name _ _ => some name
  | _ => none

end Reading

/-- The canonical form of what remains of a parameter; a shared name stands for itself. -/
def Anonymous.shown (language : Option Language) (name : List Char) : Anonymous → List Char
  | colon contract => contract.text
  | typeFirst words defaulted =>
    collapse (joinWith [' '] words) ++ (if defaulted then ['='] else [])
  | nameFirst words => collapse (joinWith [' '] words)
  | shared => name
  | fixed text => normalizeParam language text

namespace Reading

variable {language : Option Language} {text : List Char}

def shown (reading : Reading language text) : List Char :=
  reading.anonymous.shown language (reading.sharedName.getD [])

/-- The canonical form of a parameter shows what remains without its name, or a shared name. -/
theorem normalize (reading : Reading language text) (tight : Tight text) :
    normalizeParam language text = reading.shown := by
  cases reading with
  | colon param layout style fits spaced =>
      simp only [normalizeParam, style]
      exact Param.normalize_colon fits spaced
  | typeFirst declared style fits =>
      simp only [normalizeParam, style]
      exact Declared.normalize_type_first fits tight
  | nameFirst named style fits =>
      simp only [normalizeParam, style]
      exact Named.normalize_name_first fits
  | shared name style named =>
      simp only [normalizeParam, style]
      exact normalize_shared named
  | fixed text => rfl

/-- Either a name shows and nothing else, or the remains of a parameter do. -/
theorem shown_cases (reading : Reading language text) :
    (reading.anonymous = .shared ∧ ParamStyle.of language = .nameFirst ∧
        reading.sharedName = some reading.shown ∧ ',' ∉ reading.shown) ∨
      (reading.anonymous ≠ .shared ∧ reading.sharedName = none ∧
        reading.shown = reading.anonymous.shown language []) := by
  cases reading with
  | shared name style named =>
      refine .inl ⟨rfl, style, rfl, fun comma => ?_⟩
      exact name_char_ne (named.2 _ comma) (by decide) rfl
  | colon param layout style fits spaced => exact .inr ⟨nofun, rfl, rfl⟩
  | typeFirst declared style fits => exact .inr ⟨nofun, rfl, rfl⟩
  | nameFirst named style fits => exact .inr ⟨nofun, rfl, rfl⟩
  | fixed text => exact .inr ⟨nofun, rfl, rfl⟩

end Reading

/-- A parameter of a list, with the way it is read. -/
structure Entry (language : Option Language) where
  piece : Piece language
  reading : Reading language piece.core

namespace Entry

variable {language : Option Language}

def anonymous (entry : Entry language) : Anonymous := entry.reading.anonymous

def sharedName (entry : Entry language) : Option (List Char) := entry.reading.sharedName

/-- A written list of parameters. -/
def write (frame : Frame) (entries : List (Entry language)) : List Char :=
  frame.around (entries.map (·.piece.text))

theorem normalize_list (frame : Frame) (entries : List (Entry language))
    (fits : frame.Fits (entries.map piece)) :
    normalizeParams language (write frame entries) =
      joinWith [','] (entries.map (·.reading.shown)) := by
  have read := normalize_pieces frame (entries.map piece) fits
  simp only [List.map_map] at read
  refine read.trans (congrArg _ (List.map_congr_left fun entry _ => ?_))
  exact entry.reading.normalize entry.piece.tight

/-- Texts up to the first comma are told apart by what they begin. -/
theorem head_injective {left right rest behind : List Char} (whole : ',' ∉ left)
    (wholeToo : ',' ∉ right) (same : left ++ ',' :: rest = right ++ ',' :: behind) :
    left = right ∧ rest = behind := by
  induction left generalizing right with
  | nil =>
      cases right with
      | nil => exact ⟨rfl, (List.cons.inj same).2⟩
      | cons c right =>
          obtain ⟨rfl, -⟩ := List.cons.inj same
          exact absurd List.mem_cons_self wholeToo
  | cons c left induction =>
      cases right with
      | nil =>
          obtain ⟨rfl, -⟩ := List.cons.inj same
          exact absurd List.mem_cons_self whole
      | cons d right =>
          obtain ⟨rfl, later⟩ := List.cons.inj same
          obtain ⟨rfl, rest⟩ := induction (fun member => whole (List.mem_cons_of_mem c member))
            (fun member => wholeToo (List.mem_cons_of_mem c member)) later
          exact ⟨rfl, rest⟩

theorem join_cons_iff {left right : List Char} {texts others : List (List Char)}
    (apart : left = right ∨ (',' ∉ left ∧ ',' ∉ right)) (length : texts.length = others.length) :
    joinWith [','] (left :: texts) = joinWith [','] (right :: others) ↔
      left = right ∧ joinWith [','] texts = joinWith [','] others := by
  cases texts with
  | nil =>
      obtain rfl := List.eq_nil_of_length_eq_zero length.symm
      simp [joinWith]
  | cons text texts =>
      cases others with
      | nil => cases length
      | cons other others =>
          simp only [joinWith, List.append_assoc, List.singleton_append]
          rcases apart with rfl | ⟨whole, wholeToo⟩
          · simp
          · refine ⟨head_injective whole wholeToo, ?_⟩
            rintro ⟨rfl, same⟩
            rw [same]

/-- One parameter after the other, what shows is what remains, or a shared name. -/
theorem shown_iff {params others : List (Entry language)}
    (renamed : params.map anonymous = others.map anonymous) :
    joinWith [','] (params.map (·.reading.shown)) = joinWith [','] (others.map (·.reading.shown)) ↔
      params.filterMap sharedName = others.filterMap sharedName := by
  induction params generalizing others with
  | nil =>
      cases others with
      | nil => simp
      | cons other others => cases renamed
  | cons param params induction =>
      cases others with
      | nil => cases renamed
      | cons other others =>
          obtain ⟨alike, rest⟩ := List.cons.inj renamed
          have length : (params.map (·.reading.shown)).length =
              (others.map (·.reading.shown)).length := by
            simpa using congrArg List.length rest
          change param.reading.anonymous = other.reading.anonymous at alike
          rw [List.map_cons, List.map_cons]
          -- what remains may hold commas, but it is the same on both sides; shared names hold none
          rcases param.reading.shown_cases with ⟨named, -, name, whole⟩ | ⟨plain, name, shown⟩
          · rcases other.reading.shown_cases with ⟨-, -, nameToo, wholeToo⟩ | ⟨plain, -⟩
            · rw [join_cons_iff (.inr ⟨whole, wholeToo⟩) length, induction rest,
                List.filterMap_cons_some (f := sharedName) name,
                List.filterMap_cons_some (f := sharedName) nameToo, List.cons.injEq]
            · exact absurd (alike.symm.trans named) plain
          · rcases other.reading.shown_cases with ⟨named, -⟩ | ⟨-, nameToo, shownToo⟩
            · exact absurd (alike.trans named) plain
            · have same : param.reading.shown = other.reading.shown := by
                rw [shown, shownToo, alike]
              rw [join_cons_iff (.inl same) length, induction rest,
                List.filterMap_cons_none (f := sharedName) name,
                List.filterMap_cons_none (f := sharedName) nameToo]
              exact and_iff_right same

end Entry

/-- Two parameter lists that differ in names, default values and blanks only have the same canonical
form exactly when the names that share the type of a later one are the same. Outside the languages
that begin a parameter with its name there are none of these. -/
theorem renaming_kept_iff_shared_names_kept (language : Option Language) (left right : Frame)
    (params others : List (Entry language)) (fits : left.Fits (params.map Entry.piece))
    (fitsToo : right.Fits (others.map Entry.piece))
    (renamed : params.map Entry.anonymous = others.map Entry.anonymous) :
    (normalizeParams language (Entry.write left params) =
        normalizeParams language (Entry.write right others) ↔
      params.filterMap Entry.sharedName = others.filterMap Entry.sharedName) ∧
    (language ≠ some .go →
      normalizeParams language (Entry.write left params) =
        normalizeParams language (Entry.write right others)) := by
  have shown := Entry.shown_iff renamed
  rw [Entry.normalize_list left params fits, Entry.normalize_list right others fitsToo]
  refine ⟨shown, fun other => shown.mpr ?_⟩
  have none_shared (entries : List (Entry language)) : entries.filterMap Entry.sharedName = [] := by
    rw [List.filterMap_eq_nil_iff]
    intro entry _
    rcases entry.reading.shown_cases with ⟨-, style, -⟩ | ⟨-, name, -⟩
    · exact absurd (name_first_is_go style) other
    · exact name
  rw [none_shared, none_shared]

/-- Parentheses without blanks around or inside. -/
def closeFrame : Frame := ⟨true, [], [], [], by decide, by decide, by decide⟩

/-- A table of rows, as a parameter without a default value. -/
def tableNamed (name : String) : Declared :=
  ⟨"final Map<String, int[]>".toList, [' '], name.toList, [], [], none⟩

theorem table_fits {name : String} (named : IsName name.toList) (own : name ≠ "final") :
    (tableNamed name).Fits where
  told := by
    change typeWords "final Map<String, int[]>".toList ≠ []
    decide
  level := by
    change Level "final Map<String, int[]>".toList
    decide
  unassigned := by
    change findTop isAssign "final Map<String, int[]>".toList = none
    decide
  edges := by
    change "final Map<String, int[]>".toList.head? ≠ some '=' ∧
      "final Map<String, int[]>".toList.getLast? ≠ some '='
    decide
  blank := by
    change ∀ blanks ∈ [[' '], [], []], AllBlank blanks
    decide
  spaced := List.cons_ne_nil _ _
  word := ⟨named.1, fun c member => name_char_filled (named.2 c member)⟩
  clear := named.clear (by decide)
  own := ⟨named.head_ne (by decide), fun same => own (String.toList_inj.mp same)⟩
  given := nofun
  assigns := nofun

/-- A renamed table keeps its canonical form. -/
theorem renamed_table_kept :
    let entry (name : String) (named : IsName name.toList) (own : name ≠ "final")
        (tight : Tight (tableNamed name).write) (level : Level (tableNamed name).write)
        (read : Uncommented (some .java) (tableNamed name).write) : Entry (some .java) :=
      ⟨⟨[], (tableNamed name).write, [], by decide, by decide, tight, level, read⟩,
        .typeFirst (tableNamed name) rfl (table_fits named own)⟩
    let rows := entry "rows" (by decide) (by decide) (by decide) (by decide) (by decide)
    let byName := entry "byName" (by decide) (by decide) (by decide) (by decide) (by decide)
    closeFrame.Fits [rows.piece] ∧ closeFrame.Fits [byName.piece] ∧
      [rows].map Entry.anonymous = [byName].map Entry.anonymous ∧
      Entry.write closeFrame [rows] = "(final Map<String, int[]> rows)".toList ∧
      Entry.write closeFrame [byName] = "(final Map<String, int[]> byName)".toList ∧
      normalizeParams (some .java) (Entry.write closeFrame [rows]) =
        normalizeParams (some .java) (Entry.write closeFrame [byName]) := by
  intro entry rows byName
  have fits (pieces : List (Piece (some .java))) : closeFrame.Fits pieces := nofun
  refine ⟨fits _, fits _, rfl, by decide, by decide, ?_⟩
  exact (renaming_kept_iff_shared_names_kept (some .java) closeFrame closeFrame [rows] [byName]
    (fits _) (fits _) rfl).2 (by decide)

/-- In a group of names with one type, a renamed name shows. -/
theorem renamed_group_member_shows :
    let member (name : String) (named : IsName name.toList) (tight : Tight name.toList)
        (level : Level name.toList) (read : Uncommented (some .go) name.toList) :
        Entry (some .go) :=
      ⟨⟨[], name.toList, [], by decide, by decide, tight, level, read⟩,
        .shared name.toList rfl named⟩
    let named : Named := ⟨"b".toList, [' '], "int".toList⟩
    let last : Entry (some .go) :=
      ⟨⟨[' '], named.write, [], by decide, by decide, by decide, by decide, by decide⟩,
        .nameFirst named rfl ⟨by decide, by decide, by decide, by decide⟩⟩
    let before := [member "a" (by decide) (by decide) (by decide) (by decide), last]
    let after := [member "x" (by decide) (by decide) (by decide) (by decide), last]
    before.map Entry.anonymous = after.map Entry.anonymous ∧
      Entry.write closeFrame before = "(a, b int)".toList ∧
      Entry.write closeFrame after = "(x, b int)".toList ∧
      normalizeParams (some .go) "(a, b int)".toList ≠
        normalizeParams (some .go) "(x, b int)".toList := by
  intro member named last before after
  exact ⟨rfl, by decide, by decide, by decide⟩

end EditImpact.Signature
