import EditImpact.Proofs.Value.Fields
import EditImpact.Proofs.Value.Strings
import EditImpact.Text.Blank

/-!
JSON texts of values that are made of texts, lists and maps. A text spells a value with blanks
anywhere between its signs; whatever spells a value is read as that value, and both writers spell.
-/

namespace EditImpact.Json

open Value

set_option autoImplicit false

/-- Nothing but blanks between the signs of a text, or nothing at all. -/
def Blanks (text : List Char) : Prop := ∀ c ∈ text, isJsonBlank c = true

instance (text : List Char) : Decidable (Blanks text) :=
  List.decidableBAll (isJsonBlank · = true) text

theorem no_blanks : Blanks [] := fun _ member => nomatch member

mutual

/-- A text that spells a value. -/
inductive Spells : Value → List Char → Prop where
  | text (s : String) : Spells (.text s) (writeString s.toList)
  | emptyList : Spells (.list []) ['[', ']']
  | emptyMap : Spells (.map []) ['\x7b', '\x7d']
  | list {items : List Value} {body : List Char} (spelled : SpellsItems items body) :
      Spells (.list items) ('[' :: body)
  | map {fields : List (String × Value)} {body : List Char} (spelled : SpellsFields fields body)
      (distinct : DistinctNames fields) : Spells (.map fields) ('\x7b' :: body)

/-- A text that spells the items of a list up to its closing bracket. -/
inductive SpellsItems : List Value → List Char → Prop where
  | last {item : Value} {before text after : List Char} (blanks : Blanks before)
      (spelled : Spells item text) (further : Blanks after) :
      SpellsItems [item] (before ++ text ++ after ++ [']'])
  | more {item : Value} {items : List Value} {before text rest : List Char}
      (blanks : Blanks before) (spelled : Spells item text) (others : SpellsItems items rest) :
      SpellsItems (item :: items) (before ++ text ++ ',' :: rest)

/-- A text that spells the fields of a map up to its closing brace. -/
inductive SpellsFields : List (String × Value) → List Char → Prop where
  | last {key : String} {value : Value} {before gap text after : List Char}
      (blanks : Blanks before) (apart : Blanks gap) (spelled : Spells value text)
      (further : Blanks after) :
      SpellsFields [(key, value)]
        (before ++ writeString key.toList ++ ':' :: gap ++ text ++ after ++ ['\x7d'])
  | more {key : String} {value : Value} {fields : List (String × Value)}
      {before gap text rest : List Char} (blanks : Blanks before) (apart : Blanks gap)
      (spelled : Spells value text) (others : SpellsFields fields rest) :
      SpellsFields ((key, value) :: fields)
        (before ++ writeString key.toList ++ ':' :: gap ++ text ++ ',' :: rest)

end

/-! ### Reading what spells a value -/

theorem skip_blanks {blanks : List Char} (skipped : Blanks blanks) (rest : List Char) :
    skipBlanks (blanks ++ rest) = skipBlanks rest :=
  List.dropWhile_append_of_pos skipped

theorem skip_blanks_sign {blanks : List Char} (skipped : Blanks blanks) {c : Char}
    (sign : isJsonBlank c = false) (rest : List Char) :
    skipBlanks (blanks ++ c :: rest) = c :: rest := by
  rw [skip_blanks skipped]
  simp [skipBlanks, sign]

theorem read_value_blanks (fuel : Nat) {blanks : List Char} (skipped : Blanks blanks)
    (rest : List Char) : readValue fuel (blanks ++ rest) = readValue fuel rest := by
  cases fuel with
  | zero => rfl
  | succ fuel => rw [readValue, readValue, skip_blanks skipped]

/-- A value starts with a quote or an opening bracket. -/
theorem Spells.starts {value : Value} {text : List Char} (spelled : Spells value text) :
    ∃ c rest, text = c :: rest ∧ c ∈ ['"', '[', '\x7b'] := by
  cases spelled with
  | text s => exact ⟨_, _, rfl, by decide⟩
  | emptyList => exact ⟨_, _, rfl, by decide⟩
  | emptyMap => exact ⟨_, _, rfl, by decide⟩
  | list spelled => exact ⟨_, _, rfl, by decide⟩
  | map spelled distinct => exact ⟨_, _, rfl, by decide⟩

theorem opening_sign {c : Char} (opens : c ∈ ['"', '[', '\x7b']) :
    isJsonBlank c = false ∧ c ≠ ']' :=
  (by decide : ∀ d ∈ ['"', '[', '\x7b'], isJsonBlank d = false ∧ d ≠ ']') c opens

theorem SpellsItems.starts {items : List Value} {body : List Char}
    (spelled : SpellsItems items body) (rest : List Char) :
    ∃ c more, skipBlanks (body ++ rest) = c :: more ∧ c ≠ ']' := by
  have begun {value : Value} {before text : List Char} (blanks : Blanks before)
      (first : Spells value text) (after : List Char) :
      ∃ c more, skipBlanks (before ++ (text ++ after)) = c :: more ∧ c ≠ ']' := by
    obtain ⟨c, more, rfl, opens⟩ := first.starts
    exact ⟨c, more ++ after, skip_blanks_sign blanks (opening_sign opens).1 _,
      (opening_sign opens).2⟩
  cases spelled with
  | last blanks first further =>
      simp only [List.append_assoc]
      exact begun blanks first _
  | more blanks first others =>
      simp only [List.append_assoc]
      exact begun blanks first _

theorem SpellsFields.starts {fields : List (String × Value)} {body : List Char}
    (spelled : SpellsFields fields body) (rest : List Char) :
    ∃ more, skipBlanks (body ++ rest) = '"' :: more := by
  cases spelled with
  | last blanks apart first further =>
      simp only [List.append_assoc, writeString, List.cons_append]
      exact ⟨_, skip_blanks_sign blanks (by decide) _⟩
  | more blanks apart first others =>
      simp only [List.append_assoc, writeString, List.cons_append]
      exact ⟨_, skip_blanks_sign blanks (by decide) _⟩

def ReadsValues (fuel : Nat) : Prop :=
  ∀ {value text}, Spells value text → text.length < fuel → ∀ rest,
    readValue fuel (text ++ rest) = some (value, rest)

def ReadsItems (fuel : Nat) : Prop :=
  ∀ {items body}, SpellsItems items body → body.length < fuel → ∀ rest,
    readItems fuel (body ++ rest) = some (items, rest)

def ReadsFields (fuel : Nat) : Prop :=
  ∀ {fields body}, SpellsFields fields body → DistinctNames fields → body.length < fuel →
    ∀ rest, readFields fuel (body ++ rest) = some (fields, rest)

theorem reads_values_next {fuel : Nat} (items : ReadsItems fuel) (fields : ReadsFields fuel) :
    ReadsValues (fuel + 1) := by
  intro value text spelled short rest
  have sign (c : Char) (opens : c ∈ ['"', '[', '\x7b']) (more : List Char) :
      skipBlanks (c :: more) = c :: more :=
    skip_blanks_sign no_blanks (opening_sign opens).1 more
  cases spelled with
  | text s =>
      rw [writeString, List.cons_append, List.cons_append, readValue, sign _ (by decide),
        List.append_assoc, List.cons_append, List.nil_append]
      simp only [read_string_text, Option.map_some, String.ofList_toList]
  | emptyList => rfl
  | emptyMap => rfl
  | list spelled =>
      obtain ⟨c, more, begins, notClosed⟩ := spelled.starts rest
      rw [List.cons_append, readValue, sign _ (by decide)]
      simp only [begins, items spelled (Nat.lt_of_succ_lt_succ short) rest, Option.map_some]
      split
      · next closed => cases closed; contradiction
      · rfl
  | map spelled distinct =>
      obtain ⟨more, begins⟩ := spelled.starts rest
      rw [List.cons_append, readValue, sign _ (by decide)]
      simp only [begins, fields spelled distinct (Nat.lt_of_succ_lt_succ short) rest,
        Option.map_some]
      rfl

theorem reads_items_next {fuel : Nat} (values : ReadsValues fuel) (items : ReadsItems fuel) :
    ReadsItems (fuel + 1) := by
  intro found body spelled short rest
  cases spelled with
  | @last item before text after blanks first further =>
      simp only [List.length_append, List.length_singleton] at short
      simp only [List.append_assoc, List.singleton_append]
      rw [readItems, read_value_blanks fuel blanks, values first (by omega)]
      simp only [skip_blanks_sign further (by decide : isJsonBlank ']' = false)]
  | @more item later before text following blanks first others =>
      simp only [List.length_append, List.length_cons] at short
      simp only [List.append_assoc, List.cons_append]
      rw [readItems, read_value_blanks fuel blanks, values first (by omega)]
      have comma := skip_blanks_sign no_blanks (by decide : isJsonBlank ',' = false)
        (following ++ rest)
      rw [List.nil_append] at comma
      simp only [comma, items others (by omega) rest, Option.map_some]

theorem reads_fields_next {fuel : Nat} (values : ReadsValues fuel) (fields : ReadsFields fuel) :
    ReadsFields (fuel + 1) := by
  intro found body spelled distinct short rest
  have sign {c : Char} (plain : isJsonBlank c = false) (more : List Char) :
      skipBlanks (c :: more) = c :: more :=
    skip_blanks_sign no_blanks plain more
  cases spelled with
  | @last key value before gap text after blanks apart first further =>
      simp only [List.length_append, List.length_cons] at short
      simp only [List.append_assoc, List.cons_append, writeString, List.nil_append]
      rw [readFields, skip_blanks_sign blanks (by decide : isJsonBlank '"' = false)]
      simp only [read_string_text, sign (by decide : isJsonBlank ':' = false),
        read_value_blanks fuel apart, values first (by omega),
        skip_blanks_sign further (by decide : isJsonBlank '\x7d' = false), String.ofList_toList]
  | @more key value later before gap text following blanks apart first others =>
      have fresh : later.any (·.1 == key) = false := by
        have missing := (find_eq_none_iff key later).mp distinct.not_below
        rw [List.any_eq_false]
        intro field member same
        exact missing (List.mem_map.mpr ⟨field, member, eq_of_beq same⟩)
      simp only [List.length_append, List.length_cons] at short
      simp only [List.append_assoc, List.cons_append, writeString, List.nil_append]
      rw [readFields, skip_blanks_sign blanks (by decide : isJsonBlank '"' = false)]
      simp only [read_string_text, sign (by decide : isJsonBlank ':' = false),
        read_value_blanks fuel apart, values first (by omega),
        sign (by decide : isJsonBlank ',' = false), fields others distinct.tail (by omega) rest,
        Option.map_some, String.ofList_toList, fresh]
      rfl

/-- What spells a value is read as that value, if the fuel exceeds the text. -/
theorem reads (fuel : Nat) : ReadsValues fuel ∧ ReadsItems fuel ∧ ReadsFields fuel := by
  induction fuel with
  | zero =>
      exact ⟨fun _ short => absurd short (Nat.not_lt_zero _),
        fun _ short => absurd short (Nat.not_lt_zero _),
        fun _ _ short => absurd short (Nat.not_lt_zero _)⟩
  | succ fuel induction =>
      obtain ⟨values, items, fields⟩ := induction
      exact ⟨reads_values_next items fields, reads_items_next values items,
        reads_fields_next values fields⟩

theorem read_of_spells {value : Value} {text : List Char} (spelled : Spells value text) :
    read? text = some value := by
  have whole := (reads (text.length + 1)).1 spelled (Nat.lt_succ_self _) []
  rw [List.append_nil] at whole
  simp [read?, whole, skipBlanks]

/-! ### Writers -/

/-- A value made of texts, lists and maps, no map with two fields of one name. -/
inductive Textual : Value → Prop where
  | text (s : String) : Textual (.text s)
  | list {items : List Value} (each : ∀ item ∈ items, Textual item) : Textual (.list items)
  | map {fields : List (String × Value)} (distinct : DistinctNames fields)
      (each : ∀ field ∈ fields, Textual field.2) : Textual (.map fields)

theorem spells_items {write : Value → List Char} {gap after : List Char} (gaps : Blanks gap)
    (further : Blanks after) {items : List Value} (filled : items ≠ [])
    (each : ∀ item ∈ items, Spells item (write item)) {before : List Char}
    (blanks : Blanks before) :
    SpellsItems items
      (before ++ Text.joinWith (',' :: gap) (items.map write) ++ after ++ [']']) := by
  induction items generalizing before with
  | nil => contradiction
  | cons item items induction =>
      have first := each item List.mem_cons_self
      cases items with
      | nil => exact .last blanks first further
      | cons next items =>
          have others := induction (List.cons_ne_nil next items)
            (fun other member => each other (List.mem_cons_of_mem item member)) gaps
          have whole := SpellsItems.more blanks first others
          simpa only [List.map_cons, Text.joinWith, List.append_assoc, List.cons_append] using whole

/-- A field as it is written: the name, a colon, one space and the value. -/
def fieldText (write : Value → List Char) (field : String × Value) : List Char :=
  writeString field.1.toList ++ [':', ' '] ++ write field.2

theorem spells_fields {write : Value → List Char} {gap after : List Char} (gaps : Blanks gap)
    (further : Blanks after) {fields : List (String × Value)} (filled : fields ≠ [])
    (each : ∀ field ∈ fields, Spells field.2 (write field.2)) {before : List Char}
    (blanks : Blanks before) :
    SpellsFields fields
      (before ++ Text.joinWith (',' :: gap) (fields.map (fieldText write)) ++ after ++
        ['\x7d']) := by
  have space : Blanks [' '] := by decide
  induction fields generalizing before with
  | nil => contradiction
  | cons field fields induction =>
      obtain ⟨key, value⟩ := field
      have first := each (key, value) List.mem_cons_self
      cases fields with
      | nil =>
          have whole : SpellsFields [(key, value)] _ := .last blanks space first further
          simpa only [List.map_cons, List.map_nil, Text.joinWith, fieldText, List.append_assoc,
            List.cons_append, List.nil_append] using whole
      | cons next fields =>
          have others := induction (List.cons_ne_nil next fields)
            (fun other member => each other (List.mem_cons_of_mem _ member)) gaps
          have whole : SpellsFields ((key, value) :: next :: fields) _ :=
            .more blanks space first others
          simpa only [List.map_cons, Text.joinWith, fieldText, List.append_assoc,
            List.cons_append, List.nil_append] using whole

theorem write_items_joined (items : List Value) :
    writeItems items = Text.joinWith [',', ' '] (items.map write) := by
  induction items with
  | nil => rfl
  | cons item items induction =>
      cases items with
      | nil => rfl
      | cons next items =>
          rw [writeItems, induction]
          simp [Text.joinWith]

theorem write_fields_joined (fields : List (String × Value)) :
    writeFields fields = Text.joinWith [',', ' '] (fields.map (fieldText write)) := by
  induction fields with
  | nil => rfl
  | cons field fields induction =>
      obtain ⟨key, value⟩ := field
      cases fields with
      | nil => rfl
      | cons next fields =>
          rw [writeFields, induction]
          simp [Text.joinWith, fieldText]

theorem indent_items_joined (depth : Nat) (items : List Value) :
    indentItems depth items = Text.joinWith (',' :: newlineAt depth) (items.map (indent depth)) := by
  induction items with
  | nil => rfl
  | cons item items induction =>
      cases items with
      | nil => rfl
      | cons next items =>
          rw [indentItems, induction]
          simp [Text.joinWith]

theorem indent_fields_joined (depth : Nat) (fields : List (String × Value)) :
    indentFields depth fields =
      Text.joinWith (',' :: newlineAt depth) (fields.map (fieldText (indent depth))) := by
  induction fields with
  | nil => rfl
  | cons field fields induction =>
      obtain ⟨key, value⟩ := field
      cases fields with
      | nil => rfl
      | cons next fields =>
          rw [indentFields, induction]
          simp [Text.joinWith, fieldText]

theorem newline_blank (depth : Nat) : Blanks (newlineAt depth) := by
  intro c member
  rcases List.mem_cons.mp member with rfl | spaces
  · decide
  · rw [List.eq_of_mem_replicate spaces]
    decide

/-- The writer for a single line spells. -/
theorem spells_write {value : Value} (textual : Textual value) : Spells value (write value) := by
  induction textual with
  | text s => exact .text s
  | @list items _ each =>
      cases items with
      | nil => exact .emptyList
      | cons item items =>
          have spelled := spells_items (by decide : Blanks [' ']) no_blanks
            (List.cons_ne_nil item items) each no_blanks
          rw [List.nil_append, List.append_nil, ← write_items_joined] at spelled
          exact .list spelled
  | @map fields distinct _ each =>
      cases fields with
      | nil => exact .emptyMap
      | cons field fields =>
          have spelled := spells_fields (by decide : Blanks [' ']) no_blanks
            (List.cons_ne_nil field fields) each no_blanks
          rw [List.nil_append, List.append_nil, ← write_fields_joined] at spelled
          exact .map spelled distinct

/-- The indenting writer spells. -/
theorem spells_indent {value : Value} (textual : Textual value) (depth : Nat) :
    Spells value (indent depth value) := by
  induction textual generalizing depth with
  | text s => exact .text s
  | @list items _ each =>
      cases items with
      | nil => exact .emptyList
      | cons item items =>
          have spelled := spells_items (newline_blank (depth + 1)) (newline_blank depth)
            (List.cons_ne_nil item items) (fun other member => each other member (depth + 1))
            (newline_blank (depth + 1))
          rw [← indent_items_joined] at spelled
          exact .list spelled
  | @map fields distinct _ each =>
      cases fields with
      | nil => exact .emptyMap
      | cons field fields =>
          have spelled := spells_fields (newline_blank (depth + 1)) (newline_blank depth)
            (List.cons_ne_nil field fields) (fun other member => each other member (depth + 1))
            (newline_blank (depth + 1))
          rw [← indent_fields_joined] at spelled
          exact .map spelled distinct

end EditImpact.Json
