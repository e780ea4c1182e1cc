import EditImpact.Proofs.Files.PathTexts
import EditImpact.Proofs.Settings.Checks
import EditImpact.Proofs.Text.Trim
import EditImpact.Settings.Record

/-!
Settings that were accepted are accepted once more, as themselves, from the data that they are
written as. Every check accepts what it made before: names are trimmed, paths are absolute and
numbers are positive already.
-/

namespace EditImpact.Settings

open Value

set_option autoImplicit false

/-- A check that takes what came out of it for itself. -/
def Rereads {Item : Type} (check : Value → Checked Item) (write : Item → Value) : Prop :=
  ∀ value item, check value = .accepted item → check (write item) = .accepted item

theorem Takes.again {Item : Type} {given : Option Value} {default item : Item}
    {check : Value → Checked Item} {write : Item → Value} (rereads : Rereads check write)
    (own : check (write default) = .accepted default) (taken : Takes given default check item) :
    check (write item) = .accepted item := by
  cases given with
  | none =>
      cases taken
      exact own
  | some value => exact rereads value item taken

/-! ### Single settings -/

section

variable {convert : Conversions} (lawful : convert.Lawful)

include lawful

theorem one_of_own {Item : Type} {items : List Item} {name : Item → String}
    (distinct : (items.map name).Nodup) {item : Item} (member : item ∈ items) :
    convert.oneOf items name (.text (name item)) = .accepted item := by
  obtain ⟨place, bound, rfl⟩ := List.getElem_of_mem member
  let index : Fin (items.map name).length := ⟨place, (List.length_map name).symm ▸ bound⟩
  have named : (items.map name).get index = name items[place] := List.getElem_map name
  have chosen := lawful.choiceOwn distinct index
  rw [named] at chosen
  exact (Checked.map_accepted_iff ..).mpr ⟨index, chosen, rfl⟩

theorem log_level_own (level : LogLevel) :
    logLevel convert (.text level.name) = .accepted level :=
  one_of_own lawful (by decide) (by cases level <;> decide)

theorem log_format_own (format : LogFormat) :
    logFormat convert (.text format.name) = .accepted format :=
  one_of_own lawful (by decide) (by cases format <;> decide)

theorem inherited_level_own (level : Option LogLevel) :
    inheritedLevel convert (orNull (fun level => .text level.name) level) = .accepted level := by
  cases level with
  | none => rfl
  | some level => exact (Checked.map_accepted_iff ..).mpr ⟨level, log_level_own lawful level, rfl⟩

theorem positive_rereads : Rereads convert.positive .float := by
  intro _ x taken
  obtain ⟨read, -, kept⟩ := (Checked.and_then_accepted_iff ..).mp taken
  refine (Checked.and_then_accepted_iff ..).mpr ⟨x, lawful.numberOwn x, ?_⟩
  split at kept
  · cases kept
  · next above =>
      cases kept
      exact if_neg above

theorem positive_own {x : Float} (above : ¬ x ≤ 0) :
    convert.positive (.float x) = .accepted x :=
  (Checked.and_then_accepted_iff ..).mpr ⟨x, lawful.numberOwn x, if_neg above⟩

theorem target_ref_rereads : Rereads (targetRef convert) .text := by
  intro value item taken
  obtain ⟨name, -, kept⟩ := (Checked.and_then_accepted_iff ..).mp taken
  refine (Checked.and_then_accepted_iff ..).mpr ⟨item, lawful.textOwn item, ?_⟩
  dsimp only at kept ⊢
  split at kept
  · cases kept
  · next filled =>
      cases kept
      have tight : Text.Tight (Text.trim name.toList) :=
        (Text.trim_empty_or_tight name.toList).resolve_left fun empty => filled (by simp [empty])
      rw [String.toList_ofList, Text.trim_tight tight, if_neg filled]

omit lawful in
theorem items_from_own {Item : Type} {check : Value → Checked Item} {write : Item → Value}
    {items : List Item} (own : ∀ item ∈ items, check (write item) = .accepted item)
    (index : Nat) : itemsFrom check index (items.map write) = .accepted items := by
  induction items generalizing index with
  | nil => rfl
  | cons item items induction =>
      obtain ⟨first, others⟩ := List.forall_mem_cons.mp own
      rw [List.map_cons, itemsFrom, first, induction others]
      rfl

theorem list_own {Item : Type} {check : Value → Checked Item} {write : Item → Value}
    {items : List Item} (own : ∀ item ∈ items, check (write item) = .accepted item) :
    convert.list check (.list (items.map write)) = .accepted items :=
  (Checked.and_then_accepted_iff ..).mpr
    ⟨_, lawful.itemsOwn _, items_from_own own 0⟩

theorem texts_own (texts : List String) : convert.texts (.texts texts) = .accepted texts :=
  list_own lawful fun item _ => lawful.textOwn item

/-! ### Places for messages -/

omit lawful in
theorem expand_home_segments {home : String → String} {text : String} {path : Path}
    (expanded : expandHome home (.ofString text) = .accepted path) :
    ∀ segment ∈ path.segments, IsSegment segment := by
  have own := Path.of_string_segments text
  unfold expandHome at expanded
  split at expanded
  · next segments =>
      split at expanded
      · split at expanded
        · cases expanded
        · cases expanded
          intro segment member
          rcases List.mem_append.mp member with start | further
          · exact Path.of_string_segments _ segment start
          · exact own segment (segments ▸ List.mem_cons_of_mem _ further)
      · cases expanded
        exact own
  · cases expanded
    exact own

omit lawful in
theorem expand_home_rooted (home : String → String) {path : Path}
    (absolute : path.isAbsolute = true) : expandHome home path = .accepted path := by
  unfold expandHome
  split
  · next relative _ => simp [Path.isAbsolute, relative] at absolute
  · rfl

theorem log_destination_rereads : Rereads (logDestination convert) .text := by
  intro value item taken
  obtain ⟨name, -, kept⟩ := (Checked.and_then_accepted_iff ..).mp taken
  refine (Checked.and_then_accepted_iff ..).mpr ⟨item, lawful.textOwn item, ?_⟩
  split at kept
  · next stream =>
      cases kept
      exact if_pos stream
  · obtain ⟨path, expanded, last⟩ := (Checked.and_then_accepted_iff ..).mp kept
    split at last
    · next absolute =>
        cases last
        have rooted : path.Rooted := ⟨absolute, expand_home_segments expanded⟩
        split
        · rfl
        · rw [Path.of_string_to_string rooted, expand_home_rooted _ absolute]
          exact if_pos absolute
    · cases last

theorem log_stream_own :
    logDestination convert (.text ({} : LogOutput).destination) =
      .accepted ({} : LogOutput).destination :=
  (Checked.and_then_accepted_iff ..).mpr ⟨_, lawful.textOwn _, rfl⟩

/-- The part of an output that is checked for more than its kind. -/
theorem log_output_own {output : LogOutput}
    (own : logDestination convert (.text output.destination) = .accepted output.destination) :
    logOutput convert output.toValue = .accepted output := by
  refine (Checked.and_then_accepted_iff ..).mpr ⟨_, lawful.fieldsOwn _ _, ?_⟩
  simp only [LogOutput.ofFields, Checked.seq_accepted_iff, Checked.map_accepted_iff,
    field_accepted_iff]
  exact ⟨_, ⟨_, ⟨_, log_format_own lawful output.format, rfl⟩, _, own, rfl⟩, _,
    inherited_level_own lawful output.level, rfl⟩

theorem log_output_rereads : Rereads (logOutput convert) LogOutput.toValue := by
  intro value output taken
  obtain ⟨fields, -, kept⟩ := (Checked.and_then_accepted_iff ..).mp taken
  simp only [LogOutput.ofFields, Checked.seq_accepted_iff, Checked.map_accepted_iff,
    field_accepted_iff] at kept
  obtain ⟨_, ⟨_, ⟨format, -, rfl⟩, place, placed, rfl⟩, level, -, rfl⟩ := kept
  apply log_output_own lawful
  exact placed.again (log_destination_rereads lawful) (log_stream_own lawful)

/-! ### All settings -/

omit lawful in
theorem items_from_rereads {Item : Type} {check : Value → Checked Item} {write : Item → Value}
    (rereads : Rereads check write) {index : Nat} {values : List Value} {items : List Item}
    (taken : itemsFrom check index values = .accepted items) :
    ∀ item ∈ items, check (write item) = .accepted item := by
  induction values generalizing index items with
  | nil =>
      cases taken
      exact List.forall_mem_nil _
  | cons value values induction =>
      rw [itemsFrom] at taken
      simp only [Checked.seq_accepted_iff, Checked.map_accepted_iff,
        Checked.below_accepted_iff] at taken
      obtain ⟨_, ⟨first, firstTaken, rfl⟩, others, othersTaken, rfl⟩ := taken
      exact List.forall_mem_cons.mpr ⟨rereads value first firstTaken, induction othersTaken⟩

theorem log_outputs_rereads :
    Rereads (convert.list (logOutput convert)) fun outputs =>
      .list (outputs.map LogOutput.toValue) := by
  intro value outputs taken
  obtain ⟨values, -, kept⟩ := (Checked.and_then_accepted_iff ..).mp taken
  exact list_own lawful (items_from_rereads (log_output_rereads lawful) kept)

theorem follows_own_fields {given : List String → Option Value} {settings : Settings}
    (follows : Follows convert given settings) :
    Follows convert (Value.map settings.fields).at? settings := by
  obtain ⟨⟨-, outputs⟩, ⟨-, ref, -, -⟩, ⟨-, -, timeout, sizeLimit, -⟩⟩ := follows
  have stderr : logOutput convert ({} : LogOutput).toValue = .accepted {} :=
    log_output_own lawful (log_stream_own lawful)
  have noOutputs : convert.list (logOutput convert)
      (.list (({} : Logging).outputs.map LogOutput.toValue)) = .accepted ({} : Logging).outputs :=
    list_own lawful (List.forall_mem_singleton.mpr stderr)
  have noRef : targetRef convert (.text ({} : Baseline).target) = .accepted ({} : Baseline).target :=
    (Checked.and_then_accepted_iff ..).mpr ⟨_, lawful.textOwn _, rfl⟩
  exact {
    logging := {
      level := log_level_own lawful _
      outputs := outputs.again (log_outputs_rereads lawful) noOutputs }
    baseline := {
      mode := one_of_own lawful (by decide) (by cases settings.baseline.mode <;> decide)
      ref := ref.again (target_ref_rereads lawful) noRef
      useGit := lawful.flagOwn _
      keepSnapshots := lawful.flagOwn _ }
    scan := {
      sourceGlobs := texts_own lawful _
      testGlobs := texts_own lawful _
      timeout := timeout.again (positive_rereads lawful)
        (positive_own lawful (by decide +kernel))
      sizeLimit := sizeLimit.again (positive_rereads lawful)
        (positive_own lawful (by decide +kernel))
      extraExcluded := texts_own lawful _ } }

/-- Settings that were accepted are accepted again, as themselves, once they are written as data. -/
theorem accepted_again {given : List String → Option Value} {settings : Settings}
    (follows : Follows convert given settings) :
    ofFields convert settings.fields = .accepted settings := by
  have mapped : Sectioned settings.fields := by
    intro name known value found
    have member := find_mem found
    simp only [fields, List.mem_cons, Prod.mk.injEq, List.not_mem_nil, or_false] at member
    rcases member with ⟨-, rfl⟩ | ⟨-, rfl⟩ | ⟨-, rfl⟩ <;> rfl
  exact (of_fields_accepted_iff lawful mapped settings).mpr (follows_own_fields lawful follows)

end

end EditImpact.Settings
