import EditImpact.Proofs.Value.Overlay
import EditImpact.Settings.Read

/-!
When data are accepted as settings, and as which ones: every setting is its own value as checked, or
its default, and every section is known.
-/

namespace EditImpact.Settings

open Value

set_option autoImplicit false

/-! ### Checks that accept -/

namespace Checked

variable {Item Next : Type}

@[simp] theorem and_then_accepted_iff (checked : Checked Item) (next : Item → Checked Next)
    (result : Next) :
    checked.andThen next = accepted result ↔
      ∃ item, checked = accepted item ∧ next item = accepted result := by
  cases checked <;> simp [andThen]

@[simp] theorem seq_accepted_iff (first : Checked (Item → Next)) (second : Checked Item)
    (result : Next) :
    (first <*> second) = accepted result ↔
      ∃ f, first = accepted f ∧ ∃ item, second = accepted item ∧ f item = result := by
  cases first <;> cases second <;> simp [Seq.seq, apply]

@[simp] theorem map_accepted_iff (f : Item → Next) (checked : Checked Item) (result : Next) :
    (f <$> checked) = accepted result ↔ ∃ item, checked = accepted item ∧ f item = result := by
  cases checked <;> simp [Functor.map, apply]

@[simp] theorem below_accepted_iff (key : String) (checked : Checked Item) (item : Item) :
    checked.below key = accepted item ↔ checked = accepted item := by
  cases checked <;> simp [below]

end Checked

@[simp] theorem refuse_ne_accepted {Item : Type} (value : Value) (reason : String) (item : Item) :
    refuse value reason ≠ .accepted item := by
  simp [refuse]

/-! ### What conversions are relied on for -/

/-- A check that accepts no map. -/
def Single {Item : Type} (check : Value → Checked Item) : Prop :=
  ∀ fields item, check (.map fields) ≠ .accepted item

/-- Conversions that take no map for a single value or a list, a map for the fields of a section, and
everything for itself that is of the kind looked for. -/
structure Conversions.Lawful (convert : Conversions) : Prop where
  textSingle : Single convert.text
  flagSingle : Single convert.flag
  numberSingle : Single convert.number
  choiceSingle : ∀ names, Single (convert.choice names)
  itemsSingle : Single convert.items
  fieldsOwn : ∀ title fields, convert.fields title (.map fields) = .accepted fields
  textOwn : ∀ s, convert.text (.text s) = .accepted s
  flagOwn : ∀ b, convert.flag (.bool b) = .accepted b
  numberOwn : ∀ x, convert.number (.float x) = .accepted x
  choiceOwn : ∀ {names : List String}, names.Nodup → ∀ index : Fin names.length,
    convert.choice names (.text (names.get index)) = .accepted index
  itemsOwn : ∀ values, convert.items (.list values) = .accepted values

section

variable {convert : Conversions}

namespace Conversions.Lawful

variable (lawful : convert.Lawful) {Item : Type}

include lawful

theorem one_of_single (items : List Item) (name : Item → String) :
    Single (convert.oneOf items name) := by
  intro fields item taken
  obtain ⟨index, chosen, -⟩ := (Checked.map_accepted_iff ..).mp taken
  exact lawful.choiceSingle _ fields index chosen

theorem list_single (check : Value → Checked Item) : Single (convert.list check) := by
  intro fields item taken
  obtain ⟨values, listed, -⟩ := (Checked.and_then_accepted_iff ..).mp taken
  exact lawful.itemsSingle fields values listed

theorem positive_single : Single convert.positive := by
  intro fields item taken
  obtain ⟨x, read, -⟩ := (Checked.and_then_accepted_iff ..).mp taken
  exact lawful.numberSingle fields x read

theorem target_ref_single : Single (targetRef convert) := by
  intro fields item taken
  obtain ⟨name, read, -⟩ := (Checked.and_then_accepted_iff ..).mp taken
  exact lawful.textSingle fields name read

end Conversions.Lawful

/-! ### Settings that follow what is given -/

/-- A setting as checked, or its default where nothing is given. -/
def Takes {Item : Type} (given : Option Value) (default : Item) (check : Value → Checked Item)
    (item : Item) : Prop :=
  match given with
  | none => item = default
  | some value => check value = .accepted item

/-- The settings of a section, each from what is given under its own name. -/
structure Logging.Follows (convert : Conversions) (given : String → Option Value)
    (logging : Logging) : Prop where
  level : Takes (given "level") ({} : Logging).level (logLevel convert) logging.level
  outputs : Takes (given "outputs") ({} : Logging).outputs (convert.list (logOutput convert))
    logging.outputs

structure Baseline.Follows (convert : Conversions) (given : String → Option Value)
    (baseline : Baseline) : Prop where
  mode : Takes (given "mode") ({} : Baseline).mode (convert.oneOf [.local, .pr] Mode.name)
    baseline.mode
  ref : Takes (given "pr_target_branch") ({} : Baseline).target (targetRef convert)
    baseline.target
  useGit : Takes (given "git_integration_enabled") ({} : Baseline).useGit convert.flag
    baseline.useGit
  keepSnapshots : Takes (given "cache_enabled") ({} : Baseline).keepSnapshots convert.flag
    baseline.keepSnapshots

structure Scan.Follows (convert : Conversions) (given : String → Option Value) (scan : Scan) :
    Prop where
  sourceGlobs :
    Takes (given "source_patterns") ({} : Scan).sourceGlobs convert.texts scan.sourceGlobs
  testGlobs : Takes (given "test_patterns") ({} : Scan).testGlobs convert.texts scan.testGlobs
  timeout : Takes (given "timeout_sec") ({} : Scan).timeout convert.positive scan.timeout
  sizeLimit : Takes (given "max_file_size_mb") ({} : Scan).sizeLimit convert.positive
    scan.sizeLimit
  extraExcluded :
    Takes (given "extra_excluded_dirs") ({} : Scan).extraExcluded convert.texts
      scan.extraExcluded

/-- Settings of which each one is what is given at its own path, or else its default. -/
structure Follows (convert : Conversions) (given : List String → Option Value)
    (settings : Settings) : Prop where
  logging : settings.logging.Follows convert fun key => given ["logging", key]
  baseline : settings.baseline.Follows convert fun key => given ["baseline", key]
  scan : settings.scan.Follows convert fun key => given ["scan", key]

/-- The same, or two maps: no check of a setting tells the two apart. -/
def Alike (given other : Option Value) : Prop :=
  given = other ∨ ∃ fields others, given = some (.map fields) ∧ other = some (.map others)

namespace Alike

variable {given other third : Option Value}

theorem symm (alike : Alike given other) : Alike other given := by
  rcases alike with same | ⟨fields, others, maps, maps'⟩
  · exact .inl same.symm
  · exact .inr ⟨others, fields, maps', maps⟩

theorem trans (first : Alike given other) (second : Alike other third) : Alike given third := by
  rcases first with rfl | ⟨fields, others, rfl, rfl⟩
  · exact second
  · rcases second with rfl | ⟨fields', others', -, rfl⟩
    · exact .inr ⟨fields, others, rfl, rfl⟩
    · exact .inr ⟨fields, others', rfl, rfl⟩

theorem or_left (alike : Alike given other) : Alike (given.or third) (other.or third) := by
  rcases alike with rfl | ⟨fields, others, rfl, rfl⟩
  · exact .inl rfl
  · exact .inr ⟨fields, others, rfl, rfl⟩

theorem or_right (alike : Alike given other) : Alike (third.or given) (third.or other) := by
  cases third with
  | none => exact alike
  | some value => exact .inl rfl

theorem takes {Item : Type} {default : Item} {check : Value → Checked Item} {item : Item}
    (alike : Alike given other) (single : Single check)
    (taken : Takes given default check item) : Takes other default check item := by
  rcases alike with rfl | ⟨fields, others, rfl, rfl⟩
  · exact taken
  · exact absurd taken (single fields item)

end Alike

theorem Follows.of_alike (lawful : convert.Lawful) {given other : List String → Option Value}
    {settings : Settings}
    (alike : ∀ name ∈ sectionNames, ∀ key, Alike (given [name, key]) (other [name, key]))
    (follows : Follows convert given settings) : Follows convert other settings := by
  obtain ⟨⟨level, outputs⟩, ⟨mode, ref, useGit, keepSnapshots⟩,
    ⟨sourceGlobs, testGlobs, timeout, sizeLimit, extraExcluded⟩⟩ := follows
  have logging := alike "logging" (by decide)
  have baseline := alike "baseline" (by decide)
  have scan := alike "scan" (by decide)
  have texts : Single convert.texts := lawful.list_single convert.text
  exact {
    logging := {
      level := (logging _).takes (lawful.one_of_single _ _) level
      outputs := (logging _).takes (lawful.list_single _) outputs }
    baseline := {
      mode := (baseline _).takes (lawful.one_of_single _ _) mode
      ref := (baseline _).takes lawful.target_ref_single ref
      useGit := (baseline _).takes lawful.flagSingle useGit
      keepSnapshots := (baseline _).takes lawful.flagSingle keepSnapshots }
    scan := {
      sourceGlobs := (scan _).takes texts sourceGlobs
      testGlobs := (scan _).takes texts testGlobs
      timeout := (scan _).takes lawful.positive_single timeout
      sizeLimit := (scan _).takes lawful.positive_single sizeLimit
      extraExcluded := (scan _).takes texts extraExcluded } }

theorem Follows.congr (lawful : convert.Lawful) {given other : List String → Option Value}
    {settings : Settings}
    (alike : ∀ name ∈ sectionNames, ∀ key, Alike (given [name, key]) (other [name, key])) :
    Follows convert given settings ↔ Follows convert other settings :=
  ⟨.of_alike lawful alike, .of_alike lawful fun name known key => (alike name known key).symm⟩

/-! ### Sections -/

@[simp] theorem field_accepted_iff {Item : Type} (fields : List (String × Value)) (key : String)
    (default : Item) (check : Value → Checked Item) (item : Item) :
    field fields key default check = .accepted item ↔
      Takes (find? key fields) default check item := by
  unfold field
  cases find? key fields with
  | none => simp [Takes, eq_comm]
  | some value => simp [Takes]

theorem Logging.of_fields_accepted_iff (fields : List (String × Value)) (logging : Logging) :
    Logging.ofFields convert fields = .accepted logging ↔
      logging.Follows convert (find? · fields) := by
  simp only [Logging.ofFields, Checked.seq_accepted_iff, Checked.map_accepted_iff,
    field_accepted_iff]
  constructor
  · rintro ⟨_, ⟨level, levelTaken, rfl⟩, outputs, outputsTaken, rfl⟩
    exact ⟨levelTaken, outputsTaken⟩
  · rintro ⟨level, outputs⟩
    exact ⟨_, ⟨_, level, rfl⟩, _, outputs, rfl⟩

theorem Baseline.of_fields_accepted_iff (fields : List (String × Value)) (baseline : Baseline) :
    Baseline.ofFields convert fields = .accepted baseline ↔
      baseline.Follows convert (find? · fields) := by
  simp only [Baseline.ofFields, Checked.seq_accepted_iff, Checked.map_accepted_iff,
    field_accepted_iff]
  constructor
  · rintro ⟨_, ⟨_, ⟨_, ⟨mode, modeTaken, rfl⟩, ref, refTaken, rfl⟩, useGit, gitTaken, rfl⟩, keep,
      keepTaken, rfl⟩
    exact ⟨modeTaken, refTaken, gitTaken, keepTaken⟩
  · rintro ⟨mode, ref, useGit, keepSnapshots⟩
    exact ⟨_, ⟨_, ⟨_, ⟨_, mode, rfl⟩, _, ref, rfl⟩, _, useGit, rfl⟩, _, keepSnapshots, rfl⟩

theorem Scan.of_fields_accepted_iff (fields : List (String × Value)) (scan : Scan) :
    Scan.ofFields convert fields = .accepted scan ↔ scan.Follows convert (find? · fields) := by
  simp only [Scan.ofFields, Checked.seq_accepted_iff, Checked.map_accepted_iff,
    field_accepted_iff]
  constructor
  · rintro ⟨_, ⟨_, ⟨_, ⟨_, ⟨sources, sourcesTaken, rfl⟩, tests, testsTaken, rfl⟩, timeout,
      timeoutTaken, rfl⟩, limit, limitTaken, rfl⟩, excluded, excludedTaken, rfl⟩
    exact ⟨sourcesTaken, testsTaken, timeoutTaken, limitTaken, excludedTaken⟩
  · rintro ⟨sourceGlobs, testGlobs, timeout, sizeLimit, extraExcluded⟩
    exact ⟨_, ⟨_, ⟨_, ⟨_, ⟨_, sourceGlobs, rfl⟩, _, testGlobs, rfl⟩, _, timeout, rfl⟩, _,
      sizeLimit, rfl⟩, _, extraExcluded, rfl⟩

/-- Every known section that is given is a map. -/
def Sectioned (fields : List (String × Value)) : Prop :=
  ∀ name ∈ sectionNames, ∀ value, find? name fields = some value → value.isMap = true

/-- A section that is given is read from its own fields, a missing one from no fields. -/
theorem section_accepted_iff (lawful : convert.Lawful) {Item : Type}
    {fields : List (String × Value)} {name : String}
    (mapped : ∀ value, find? name fields = some value → value.isMap = true) {default : Item}
    (title : String) {check : List (String × Value) → Checked Item}
    (empty : check [] = .accepted default) (item : Item) :
    field fields name default (convert.group title check) = .accepted item ↔
      check ((map fields).fieldsAt name) = .accepted item := by
  rw [field_accepted_iff, fieldsAt, Value.get, field?]
  cases found : find? name fields with
  | none => simp [Takes, Value.fields, empty, eq_comm]
  | some value =>
      obtain ⟨held, rfl⟩ := eq_map_of_is_map (mapped value found)
      simp [Takes, Conversions.group, lawful.fieldsOwn, Value.fields]

/-- The value at a path of a section and a name. -/
theorem find_fields_at (fields : List (String × Value)) (name key : String) :
    find? key ((map fields).fieldsAt name) = (map fields).at? [name, key] := by
  rw [fieldsAt, Value.get, field?, at?]
  cases find? name fields with
  | none => rfl
  | some value => cases value <;> simp [Value.fields, at?, find?]

theorem of_fields_accepted_iff (lawful : convert.Lawful) {fields : List (String × Value)}
    (mapped : Sectioned fields) (settings : Settings) :
    ofFields convert fields = .accepted settings ↔ Follows convert (map fields).at? settings := by
  have noLogging : Logging.ofFields convert [] = .accepted {} := rfl
  have noBaseline : Baseline.ofFields convert [] = .accepted {} := rfl
  have noScan : Scan.ofFields convert [] = .accepted {} := rfl
  have logging := section_accepted_iff lawful (mapped "logging" (by decide)) "LoggingConfig"
    noLogging
  have baseline := section_accepted_iff lawful (mapped "baseline" (by decide)) "BaselineConfig"
    noBaseline
  have scan := section_accepted_iff lawful (mapped "scan" (by decide)) "ScanConfig" noScan
  simp only [ofFields, Checked.seq_accepted_iff, Checked.map_accepted_iff, logging, baseline,
    scan, Logging.of_fields_accepted_iff, Baseline.of_fields_accepted_iff,
    Scan.of_fields_accepted_iff, find_fields_at]
  constructor
  · rintro ⟨_, ⟨_, ⟨first, followsFirst, rfl⟩, second, followsSecond, rfl⟩, third, followsThird,
      rfl⟩
    exact ⟨followsFirst, followsSecond, followsThird⟩
  · rintro ⟨first, second, third⟩
    exact ⟨_, ⟨_, ⟨_, first, rfl⟩, _, second, rfl⟩, _, third, rfl⟩

/-- Data become settings if every section is known and every setting is accepted. -/
theorem of_known_fields_accepted_iff (lawful : convert.Lawful) {fields : List (String × Value)}
    (mapped : Sectioned fields) (settings : Settings) :
    ofKnownFields convert fields = .accepted settings ↔
      (∀ name ∈ fields.map (·.1), name ∈ sectionNames) ∧
        Follows convert (map fields).at? settings := by
  rw [ofKnownFields, Checked.and_then_accepted_iff]
  simp only [of_fields_accepted_iff lawful mapped]
  cases found : fields.find? fun entry => !sectionNames.contains entry.1 with
  | some entry =>
      have unknown := List.find?_some found
      constructor
      · rintro ⟨item, -, refused⟩
        cases refused
      · rintro ⟨known, -⟩
        have := known entry.1 (List.mem_map_of_mem (List.mem_of_find?_eq_some found))
        simp [this] at unknown
  | none =>
      have known : ∀ name ∈ fields.map (·.1), name ∈ sectionNames := by
        intro name member
        obtain ⟨entry, inside, rfl⟩ := List.mem_map.mp member
        simpa using List.find?_eq_none.mp found entry inside
      constructor
      · rintro ⟨item, follows, same⟩
        cases same
        exact ⟨known, follows⟩
      · rintro ⟨-, follows⟩
        exact ⟨settings, follows, rfl⟩

end

end EditImpact.Settings
