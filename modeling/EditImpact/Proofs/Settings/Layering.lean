import EditImpact.Proofs.Settings.Layers
import EditImpact.Proofs.Settings.Rereading
import Mathlib

/-!
Settings follow the highest layer, path by path. Files, the environment and what a caller gives are
a stack of layers; a setting is what the first layer says of it that says anything, and what the
layers below say of it makes no difference. That holds as long as the environment is a layer at all:
one variable that cannot be read is enough to keep all settings from loading.
-/

namespace EditImpact.Settings

open Value

set_option autoImplicit false

/-- What a layer says at the end of a path. -/
def Layer.at? (layer : Layer) (path : List String) : Option Value :=
  (Value.map layer.fields).at? path

/-- A layer of nothing but known sections. -/
def Layer.Known (layer : Layer) : Prop :=
  layer.named = true ∧ ∀ name ∈ layer.fields.map (·.1), name ∈ sectionNames

/-- What the first layer of a stack says that says anything. -/
def topAt (stack : List Layer) (path : List String) : Option Value := stack.findSome? (·.at? path)

section

variable (tools : Tools)

/-- Files that read as layers, one by one. -/
inductive ReadAs : List (Path × List Char) → List Layer → Prop where
  | nil : ReadAs [] []
  | cons {path : Path} {text : List Char} {files : List (Path × List Char)} {layer : Layer}
      {layers : List Layer} (first : Layer.read tools path text = .ok layer)
      (rest : ReadAs files layers) : ReadAs ((path, text) :: files) (layer :: layers)

/-- The layers that the sources of settings are, the highest one first: what is given, the
environment, and the files from the last one to the first. -/
inductive Stacks (files : List (Path × List Char)) (environment : List (String × String))
    (given : List (String × Value)) : List Layer → Prop where
  | mk {layers : List Layer} {fields : List (String × Value)} (read : ReadAs tools files layers)
      (understood : outside tools environment = .ok fields) :
      Stacks files environment given ({ fields := given } :: { fields := fields } :: layers.reverse)

end

/-- One layer of a stack in place of another one that says the same of every setting of which no
layer above says anything. -/
inductive DifferBelow : List Layer → List Layer → Prop where
  | mk {above below : List Layer} {layer other : Layer} (known : layer.Known ↔ other.Known)
      (seen : ∀ name ∈ sectionNames, ∀ key, topAt above [name, key] = none →
        layer.at? [name, key] = other.at? [name, key]) :
      DifferBelow (above ++ layer :: below) (above ++ other :: below)

/-! ### One layer over another -/

theorem laid_over_alike (base : Option Value) (value : Value) :
    Alike (some (laidOver base value)) (some value) := by
  cases base with
  | none => exact .inl rfl
  | some base =>
      cases mapped : value.isMap with
      | false => exact .inl (congrArg some (overlay_single base mapped))
      | true =>
          obtain ⟨fields, rfl⟩ := eq_map_of_is_map mapped
          cases below : base.isMap with
          | false => exact .inl (congrArg some (overlay_on_single below _))
          | true =>
              obtain ⟨held, rfl⟩ := eq_map_of_is_map below
              exact .inr ⟨_, fields, congrArg some (overlay_maps held fields), rfl⟩

theorem field_of_overlay {fields : List (String × Value)} (distinct : DistinctNames fields)
    (held : List (String × Value)) (key : String) :
    Alike (find? key (overlayFields held fields)) ((find? key fields).or (find? key held)) := by
  rw [find_overlay_fields distinct]
  cases find? key fields with
  | none => exact .inl rfl
  | some value => exact laid_over_alike (find? key held) value

theorem setting_of_overlay {fields : List (String × Value)} (named : WellNamed (.map fields))
    (mapped : Sectioned fields) (held : List (String × Value)) {name : String}
    (known : name ∈ sectionNames) (key : String) :
    Alike ((map (overlayFields held fields)).at? [name, key])
      (((map fields).at? [name, key]).or ((map held).at? [name, key])) := by
  simp only [at?, find_overlay_fields named.distinct]
  cases found : find? name fields with
  | none => exact .inl rfl
  | some value =>
      obtain ⟨inner, rfl⟩ := eq_map_of_is_map (mapped name known value found)
      have distinct := (named.found found).distinct
      cases find? name held with
      | none => simpa [laidOver, at?] using .inl rfl
      | some base =>
          cases below : base.isMap with
          | false =>
              have replaced := overlay_on_single below (map inner)
              simpa [laidOver, replaced, at_single below, at?] using .inl rfl
          | true =>
              obtain ⟨outer, rfl⟩ := eq_map_of_is_map below
              simpa [laidOver, overlay_maps, at?] using field_of_overlay distinct outer key

theorem mem_names_overlay (held fields : List (String × Value)) (name : String) :
    name ∈ (overlayFields held fields).map (·.1) ↔
      name ∈ fields.map (·.1) ∨ name ∈ held.map (·.1) := by
  induction fields generalizing held with
  | nil => simp [overlayFields]
  | cons field fields induction =>
      obtain ⟨key, value⟩ := field
      rw [overlay_fields_cons, induction, names_put_field, List.map_cons, List.mem_cons]
      tauto

theorem sectioned_overlay {held fields : List (String × Value)} (distinct : DistinctNames fields)
    (below : Sectioned held) (mapped : Sectioned fields) :
    Sectioned (overlayFields held fields) := by
  intro name known value found
  rw [find_overlay_fields distinct] at found
  split at found
  · next upper inside =>
      cases found
      obtain ⟨inner, rfl⟩ := eq_map_of_is_map (mapped name known upper inside)
      rcases laid_over_alike (find? name held) (.map inner) with same | ⟨_, _, merged, -⟩
      · rw [Option.some.inj same]
        rfl
      · rw [Option.some.inj merged]
        rfl
  · exact below name known value found

/-! ### All layers -/

theorem top_at_append (above below : List Layer) (path : List String) :
    topAt (above ++ below) path = (topAt above path).or (topAt below path) :=
  List.findSome?_append

theorem known_overlay_iff (base layer : Layer) :
    (base.overlay layer).Known ↔ layer.Known ∧ base.Known := by
  simp only [Layer.Known, Layer.overlay, Bool.and_eq_true, mem_names_overlay, or_imp, forall_and]
  tauto

/-- A layer that has come out of a stack of them. -/
structure Merges (merged : Layer) (stack : List Layer) : Prop where
  mapped : Sectioned merged.fields
  known : merged.Known ↔ ∀ layer ∈ stack, layer.Known
  found : ∀ name ∈ sectionNames, ∀ key, Alike (merged.at? [name, key]) (topAt stack [name, key])

namespace Merges

theorem empty : Merges {} [] := by
  refine ⟨?_, ?_, ?_⟩
  · intro name _ value found
    cases found
  · simp [Layer.Known]
  · intro name _ key
    exact .inl rfl

theorem single {layer : Layer} (mapped : Sectioned layer.fields) : Merges layer [layer] := by
  refine ⟨mapped, by simp, ?_⟩
  intro name _ key
  simpa [topAt] using .inl rfl

theorem append {upper base : Layer} {above below : List Layer}
    (named : WellNamed (.map upper.fields)) (first : Merges upper above)
    (second : Merges base below) : Merges (base.overlay upper) (above ++ below) := by
  refine ⟨sectioned_overlay named.distinct second.mapped first.mapped, ?_, ?_⟩
  · rw [known_overlay_iff, first.known, second.known, List.forall_mem_append]
  · intro name known key
    rw [top_at_append]
    exact (setting_of_overlay named first.mapped base.fields known key).trans
      ((first.found name known key).or_left.trans (second.found name known key).or_right)

end Merges

section

variable {tools : Tools} {files : List (Path × List Char)} {environment : List (String × String)}
  {given : List (String × Value)} {stack : List Layer}

namespace Tools.Lawful

variable (lawful : tools.Lawful)

include lawful

theorem layer_well_named {path : Path} {text : List Char} {layer : Layer}
    (read : Layer.read tools path text = .ok layer) : WellNamed (.map layer.fields) := by
  unfold Layer.read at read
  split at read
  · cases read
  · next document inside =>
      have named := lawful.yamlNamed inside
      split at read
      · cases read
        exact .empty
      · next fields value =>
          cases read
          exact value ▸ named
      · cases read

theorem outside_well_named {fields : List (String × Value)}
    (understood : outside tools environment = .ok fields) : WellNamed (.map fields) := by
  unfold outside at understood
  split at understood
  · next said =>
      cases understood
      exact lawful.readVariablesNamed said
  · cases understood

/-- Reading files lays each one over those before it. -/
theorem read_all_merges {layers : List Layer} (read : ReadAs tools files layers)
    (mapped : ∀ layer ∈ layers, Sectioned layer.fields) {base : Layer} {below : List Layer}
    (merges : Merges base below) :
    ∃ merged, Layer.readAll tools base files = .ok merged ∧
      Merges merged (layers.reverse ++ below) := by
  induction read generalizing base below with
  | nil => exact ⟨base, rfl, merges⟩
  | @cons path text files layer layers first _ induction =>
      have here := Merges.single (mapped layer List.mem_cons_self)
      obtain ⟨merged, all, result⟩ := induction
        (fun other member => mapped other (List.mem_cons_of_mem _ member))
        (Merges.append (lawful.layer_well_named first) here merges)
      refine ⟨merged, ?_, ?_⟩
      · rw [Layer.readAll, first]
        exact all
      · simpa using result

/-- Loading is checking what the layers are merged to; the second check changes nothing. -/
theorem load_of_layers {fields : List (String × Value)} {base : Layer}
    (read : Layer.readAll tools {} files = .ok base)
    (understood : outside tools environment = .ok fields)
    (mapped : Sectioned (overlayFields base.fields (overlayFields fields given)))
    (settings : Settings) :
    load tools files environment given = .ok settings ↔
      base.named = true ∧
        ofKnownFields tools.toConversions (overlayFields base.fields (overlayFields fields given)) =
          .accepted settings := by
  have merged : layered tools [] [.ok given, outside tools environment, .ok base.fields] =
      .ok (overlayFields base.fields (overlayFields fields given)) := by
    simp only [layered, understood, lawful.merges, bind, Except.bind]
    rfl
  simp only [load, read, merged, bind, Except.bind]
  cases base.named with
  | false => simp
  | true =>
      cases checked : ofKnownFields tools.toConversions
          (overlayFields base.fields (overlayFields fields given)) with
      | refused problem => simp [Checked.loaded]
      | homeless => simp [Checked.loaded]
      | accepted found =>
          have follows := (of_known_fields_accepted_iff lawful.toLawful mapped found).mp checked
          have again := accepted_again lawful.toLawful follows.2
          simp [Checked.loaded, again]

/-- Loading is checking the layer that comes out of the stack. -/
theorem load_merges (sources : Stacks tools files environment given stack)
    (named : WellNamed (.map given)) (mapped : ∀ layer ∈ stack, Sectioned layer.fields) :
    ∃ merged, Merges merged stack ∧ ∀ settings,
      load tools files environment given = .ok settings ↔
        merged.Known ∧ Follows tools.toConversions merged.at? settings := by
  obtain @⟨layers, fields, read, understood⟩ := sources
  obtain ⟨base, all, bottom⟩ := lawful.read_all_merges read
    (fun layer member => mapped layer (by simp [member])) Merges.empty
  have upper : Merges (Layer.overlay { fields := fields } { fields := given })
      [{ fields := given }, { fields := fields }] :=
    Merges.append named (.single (mapped _ (by simp))) (.single (mapped _ (by simp)))
  have upperNamed : WellNamed (.map (overlayFields fields given)) := by
    rw [← overlay_maps]
    exact well_named_overlay named (lawful.outside_well_named understood)
  have whole := Merges.append upperNamed upper bottom
  refine ⟨_, by simpa using whole, ?_⟩
  intro settings
  rw [lawful.load_of_layers all understood whole.mapped]
  refine (and_congr_right fun _ =>
    of_known_fields_accepted_iff lawful.toLawful whole.mapped settings).trans ?_
  simp only [Layer.Known, Layer.overlay, Bool.and_self, Bool.and_true, and_assoc]
  exact Iff.rfl

theorem load_ok_iff (sources : Stacks tools files environment given stack)
    (named : WellNamed (.map given)) (mapped : ∀ layer ∈ stack, Sectioned layer.fields)
    (settings : Settings) :
    load tools files environment given = .ok settings ↔
      (∀ layer ∈ stack, layer.Known) ∧ Follows tools.toConversions (topAt stack) settings := by
  obtain ⟨merged, merges, loaded⟩ := lawful.load_merges sources named mapped
  rw [loaded, merges.known]
  exact and_congr_right fun _ => Follows.congr lawful.toLawful merges.found

end Tools.Lawful

/-- Nothing is loaded where the environment cannot be read, whatever stands above it. -/
theorem load_lost {layers : List Layer} (read : ReadAs tools files layers)
    (lost : tools.readVariables variableStart Shape.sections environment = none) :
    load tools files environment given = .error .environment := by
  have all (base : Layer) : ∃ merged, Layer.readAll tools base files = .ok merged := by
    induction read generalizing base with
    | nil => exact ⟨base, rfl⟩
    | cons first _ induction =>
        rw [Layer.readAll, first]
        exact induction _
  obtain ⟨merged, readAll⟩ := all {}
  have unknown : outside tools environment = .error .environment := by rw [outside, lost]
  rw [load, readAll]
  simp only [layered, unknown, bind, Except.bind]

end

theorem DifferBelow.known_iff {stack other : List Layer} (differ : DifferBelow stack other) :
    (∀ layer ∈ stack, layer.Known) ↔ ∀ layer ∈ other, layer.Known := by
  cases differ with
  | mk known seen => simp only [List.forall_mem_append, List.forall_mem_cons, known]

theorem DifferBelow.top_at {stack other : List Layer} (differ : DifferBelow stack other)
    {name : String} (known : name ∈ sectionNames) (key : String) :
    topAt stack [name, key] = topAt other [name, key] := by
  obtain @⟨above, below, layer, layer', -, seen⟩ := differ
  rw [top_at_append, top_at_append]
  cases hidden : topAt above [name, key] with
  | some value => rfl
  | none =>
      have same := seen name known key hidden
      simp only [topAt, List.findSome?_cons, same]

/-- Settings are what the highest layers say of them, one by one, as checked: loading succeeds where
all of that is accepted, and gives just that. So a layer may say anything of a setting of which a
higher layer says something. But an environment with a variable that cannot be read is no layer, and
then nothing is loaded. This rests on how data are laid over other data: what is at the end of a path
comes from above, or from below if nothing above is there or on the way. -/
theorem settings_follow_top_layers {tools : Tools} (lawful : tools.Lawful)
    {files : List (Path × List Char)} {environment : List (String × String)}
    {given : List (String × Value)} {stack : List Layer}
    (sources : Stacks tools files environment given stack) (named : WellNamed (.map given))
    (mapped : ∀ layer ∈ stack, Sectioned layer.fields) :
    (∀ settings, load tools files environment given = .ok settings ↔
      (∀ layer ∈ stack, layer.Known) ∧ Follows tools.toConversions (topAt stack) settings) ∧
    (∀ {otherFiles otherEnvironment otherGiven other},
      Stacks tools otherFiles otherEnvironment otherGiven other → WellNamed (.map otherGiven) →
      (∀ layer ∈ other, Sectioned layer.fields) → DifferBelow stack other →
      ∀ settings, load tools files environment given = .ok settings ↔
        load tools otherFiles otherEnvironment otherGiven = .ok settings) ∧
    (∀ {otherEnvironment},
      tools.readVariables variableStart Shape.sections otherEnvironment = none →
      ∀ otherGiven, load tools files otherEnvironment otherGiven = .error .environment) ∧
    ∀ {top : Value}, WellNamed top → ∀ {value : Value}, value.isMap = false → ∀ base path,
      ((overlay base top).at? path = some value ↔
        top.at? path = some value ∨
          top.at? path = none ∧ base.at? path = some value ∧ ¬ Blocks top path) := by
  refine ⟨lawful.load_ok_iff sources named mapped, ?_, ?_, overlay_at⟩
  · intro otherFiles otherEnvironment otherGiven other otherSources otherNamed otherMapped differ
      settings
    have same : ∀ name ∈ sectionNames, ∀ key,
        Alike (topAt stack [name, key]) (topAt other [name, key]) :=
      fun name known key => .inl (differ.top_at known key)
    rw [lawful.load_ok_iff sources named mapped,
      lawful.load_ok_iff otherSources otherNamed otherMapped, differ.known_iff]
    exact and_congr_right fun _ => Follows.congr lawful.toLawful same
  · intro otherEnvironment lost otherGiven
    obtain ⟨read, -⟩ := sources
    exact load_lost read lost

/-! ### Layers that say one thing -/

/-- A layer that says one thing. -/
def Layer.saying (group name : String) (value : Value) : Layer :=
  { fields := [(group, .map [(name, value)])] }

section

variable {group name : String} {value : Value}

theorem saying_known (known : group ∈ sectionNames) : (Layer.saying group name value).Known := by
  refine ⟨rfl, ?_⟩
  intro other member
  rwa [List.mem_singleton.mp member]

theorem saying_sectioned : Sectioned (Layer.saying group name value).fields := by
  intro other _ held found
  rw [Layer.saying, find_cons] at found
  split at found
  · cases found
    rfl
  · cases found

theorem saying_at_apart {other key : String} (apart : ¬(group = other ∧ name = key)) :
    (Layer.saying group name value).at? [other, key] = none := by
  by_cases here : group = other
  · have unsaid : name ≠ key := fun same => apart ⟨here, same⟩
    simp [Layer.at?, at?, Layer.saying, here, unsaid, find?]
  · simp [Layer.at?, at?, Layer.saying, here, find?]

/-- Of a setting of which a higher layer says something, a layer may say anything or nothing. -/
theorem DifferBelow.hidden (known : group ∈ sectionNames) {above : List Layer}
    {held : Value} (said : topAt above [group, name] = some held) (below : List Layer) :
    DifferBelow (above ++ .saying group name value :: below) (above ++ {} :: below) := by
  refine .mk (iff_of_true (saying_known known) (by simp [Layer.Known])) ?_
  intro other _ key unsaid
  have apart : ¬(group = other ∧ name = key) := by
    rintro ⟨rfl, rfl⟩
    rw [said] at unsaid
    cases unsaid
  rw [saying_at_apart apart]
  rfl

end

/-- A mode that there is none of stands in the lowest file, below the mode that counts. -/
theorem unknown_mode_below :
    let tools : Tools := bundledTools []
    let files (lowest : String) : List (Path × List Char) :=
      [(.ofString "/home/settings", lowest.toList),
        (.ofString "/project/settings", "'baseline':\n  'mode': 'pr'\n".toList)]
    let environment : List (String × String) := [("IMPACTLENS__BASELINE__CACHE_ENABLED", "off")]
    let given : List (String × Value) :=
      [("baseline", .map [("pr_target_branch", .text " next ")])]
    let settings : Settings :=
      { baseline := { mode := .pr, target := "next", keepSnapshots := false } }
    load tools (files "'baseline':\n  'mode': 'pull'\n") environment given = .ok settings ∧
      load tools (files "") environment given = .ok settings ∧
      load tools (files "'baseline':\n  'mode': 'pull'\n")
        [("IMPACTLENS__SCAN__TEST_PATTERNS", "*.py")] given = .error .environment ∧
      (overlay (.map [("mode", .text "pull")]) (.map [("mode", .text "pr")])).at? ["mode"] =
        some (.text "pr") := by
  intro tools files environment given settings
  let upper : List Layer :=
    [.saying "baseline" "pr_target_branch" (.text " next "),
      .saying "baseline" "cache_enabled" (.text "off"), .saying "baseline" "mode" (.text "pr")]
  let lowest : Layer := .saying "baseline" "mode" (.text "pull")
  let nothing : Layer := {}
  have readUpper (path : Path) : Layer.read tools path "'baseline':\n  'mode': 'pr'\n".toList =
      .ok (.saying "baseline" "mode" (.text "pr")) := by
    cbv
  have readLowest (path : Path) :
      Layer.read tools path "'baseline':\n  'mode': 'pull'\n".toList = .ok lowest := by
    cbv
  have readNothing (path : Path) : Layer.read tools path "".toList = .ok nothing := by rfl
  have understood : outside tools environment =
      .ok (Layer.saying "baseline" "cache_enabled" (.text "off")).fields := by rfl
  have sources : Stacks tools (files "'baseline':\n  'mode': 'pull'\n") environment given
      (upper ++ lowest :: []) :=
    .mk (.cons (readLowest _) (.cons (readUpper _) .nil)) understood
  have otherSources : Stacks tools (files "") environment given (upper ++ nothing :: []) :=
    .mk (.cons (readNothing _) (.cons (readUpper _) .nil)) understood
  have named : WellNamed (.map given) := .one _ (.one _ (.single rfl))
  have mapped : ∀ layer ∈ upper ++ lowest :: [], Sectioned layer.fields := by
    simp [upper, lowest, saying_sectioned]
  have otherMapped : ∀ layer ∈ upper ++ nothing :: [], Sectioned layer.fields := by
    simp [upper, nothing, saying_sectioned, Merges.empty.mapped]
  have differ : DifferBelow (upper ++ lowest :: []) (upper ++ nothing :: []) :=
    .hidden (by decide) rfl []
  have known (name : String) (value : Value) : (Layer.saying "baseline" name value).Known :=
    saying_known (by decide)
  have law := settings_follow_top_layers (bundled_lawful []) sources named mapped
  have first : load tools (files "'baseline':\n  'mode': 'pull'\n") environment given =
      .ok settings := by
    refine (law.1 _).mpr ⟨by simp [upper, lowest, known], ?_⟩
    exact {
      logging := ⟨rfl, rfl⟩
      baseline := ⟨rfl, rfl, rfl, rfl⟩
      scan := ⟨rfl, rfl, rfl, rfl, rfl⟩ }
  refine ⟨first, ?_, ?_, ?_⟩
  · exact (law.2.1 otherSources named otherMapped differ _).mp first
  · exact law.2.2.1 rfl given
  · exact (law.2.2.2 (.one _ (.single rfl)) rfl _ _).mpr (.inl rfl)

/-- A list that is no JSON stands in a variable, below the list that is given. Without the variable
that list counts; with it nothing is loaded. -/
theorem hidden_variable_blocks :
    let tools : Tools := bundledTools []
    let given : List (String × Value) := [("scan", .map [("source_patterns", .texts ["*.ts"])])]
    load tools [] [] given = .ok { scan := { sourceGlobs := ["*.ts"] } } ∧
      load tools [] [("IMPACTLENS__SCAN__SOURCE_PATTERNS", "*.py")] given =
        .error .environment := by
  intro tools given
  have read : ReadAs tools [] [] := .nil
  have sources : Stacks tools [] [] given [{ fields := given }, {}] := .mk read rfl
  have named : WellNamed (.map given) := .one _ (.one _ (.single rfl))
  have mapped : Sectioned given := saying_sectioned
  constructor
  · have loaded := (bundled_lawful []).load_ok_iff sources named
      (by simp [mapped, Merges.empty.mapped])
    refine (loaded _).mpr ⟨by simp [Layer.Known, given, sectionNames], ?_⟩
    exact {
      logging := ⟨rfl, rfl⟩
      baseline := ⟨rfl, rfl, rfl, rfl⟩
      scan := ⟨rfl, rfl, rfl, rfl, rfl⟩ }
  · exact load_lost read rfl

end EditImpact.Settings
