import EditImpact.Proofs.Settings.Checks
import EditImpact.Proofs.Value.Reading
import EditImpact.Settings.Bundled

/-!
What loading settings relies on, and that it holds for the tools of the program: what files and the
environment say are nested maps without two fields of one name, and fields are merged by laying some
over others.
-/

namespace EditImpact.Settings

open Value

set_option autoImplicit false

/-- Tools whose data have no map with two fields of one name, and whose merging lays fields over
fields. -/
structure Tools.Lawful (tools : Tools) : Prop extends tools.toConversions.Lawful where
  yamlNamed : ∀ {text document}, tools.yaml text = .ok document → WellNamed document.value
  readVariablesNamed : ∀ {environment fields},
    tools.readVariables variableStart Shape.sections environment = some fields →
      WellNamed (.map fields)
  merges : ∀ held fields, tools.merge held fields = overlayFields held fields

theorem document_well_named {text : List Char} {document : Document}
    (read : documentOf text = .ok document) : WellNamed document.value := by
  unfold documentOf at read
  split at read
  · next found inside =>
      cases read
      exact Yaml.read_well_named inside
  · cases read

theorem put_at_well_named {value : Value} (inside : WellNamed value) (path : List String)
    {fields : List (String × Value)} (named : WellNamed (.map fields)) :
    WellNamed (.map (putAt value path fields)) := by
  fun_induction putAt value path fields with
  | case1 fields => exact named
  | case2 key fields => exact named.put_field key inside
  | case3 key keys fields more missing induction => exact named.put_field key (induction .empty)
  | case4 key keys fields more held found induction =>
      exact named.put_field key (induction (named.found found))
  | case5 key keys fields more other found blocked => exact named

theorem variable_value_well_named {shape : Option Shape} {text : String} {value : Value}
    (read : variableValue? shape text = some value) : WellNamed value := by
  unfold variableValue? at read
  split at read
  · split at read
    · cases read
      exact .single rfl
    · exact Json.read_well_named read
  · cases read
    exact .single rfl

theorem variable_fields_well_named {shape : Shape} {start : List Char}
    {entries : List (String × String)} {fields found : List (String × Value)}
    (named : WellNamed (.map fields))
    (read : variableFields? shape start entries fields = some found) : WellNamed (.map found) := by
  induction entries generalizing fields with
  | nil =>
      cases read
      exact named
  | cons entry entries induction =>
      obtain ⟨name, text⟩ := entry
      rw [variableFields?] at read
      split at read
      · exact induction named read
      · obtain ⟨value, valued, read⟩ := Option.bind_eq_some_iff.mp read
        exact induction (put_at_well_named (variable_value_well_named valued) _ named) read

theorem known_names_well_named (shape : Shape) {fields : List (String × Value)}
    (each : ∀ field ∈ fields, WellNamed field.2) : WellNamed (.map (knownNames shape fields)) := by
  unfold knownNames
  apply List.foldlRecOn (motive := fun named => WellNamed (.map named)) fields _ WellNamed.empty
  intro named before field member
  exact before.put_field _ (each field member)

theorem section_value_well_named {environment : Environment} {start name : String} {shape : Shape}
    {value : Value} (read : sectionValue? environment start name shape = some (some value)) :
    WellNamed value := by
  unfold sectionValue? at read
  dsimp only at read
  split at read
  · obtain ⟨fields, single, same⟩ := Option.map_eq_some_iff.mp read
    split at same
    · cases same
    · cases same
      exact known_names_well_named shape (variable_fields_well_named .empty single).each
  · next text _ =>
      split at read
      · cases read
      · cases read
      · next fields whole =>
          obtain ⟨further, single, same⟩ := Option.map_eq_some_iff.mp read
          cases same
          have named := well_named_overlay (variable_fields_well_named .empty single)
            (Json.read_well_named whole)
          rw [overlay_maps] at named
          exact known_names_well_named shape named.each
      · next other _ _ whole =>
          cases read
          exact Json.read_well_named whole

/-- What the environment says of sections with distinct names is well named, and only of them. -/
theorem environment_names {environment : Environment} {start : String}
    {shapes : List (String × Shape)} {fields : List (String × Value)}
    (read : environmentFields? environment start shapes = some fields) :
    (fields.map (·.1)).Sublist (shapes.map (·.1)) ∧ ∀ field ∈ fields, WellNamed field.2 := by
  induction shapes generalizing fields with
  | nil =>
      cases read
      exact ⟨.slnil, fun _ member => nomatch member⟩
  | cons entry shapes induction =>
      obtain ⟨name, shape⟩ := entry
      rw [environmentFields?] at read
      obtain ⟨value, valued, read⟩ := Option.bind_eq_some_iff.mp read
      obtain ⟨later, inside, same⟩ := Option.bind_eq_some_iff.mp read
      obtain ⟨names, each⟩ := induction inside
      cases value with
      | none =>
          cases same
          exact ⟨names.cons name, each⟩
      | some value =>
          cases same
          refine ⟨names.cons_cons name, ?_⟩
          intro field member
          rcases List.mem_cons.mp member with rfl | inLater
          · exact section_value_well_named valued
          · exact each field inLater

theorem environment_well_named {environment : Environment} {start : String}
    {fields : List (String × Value)}
    (read : environmentFields? environment start Shape.sections = some fields) :
    WellNamed (.map fields) := by
  obtain ⟨names, each⟩ := environment_names read
  have distinct : (Shape.sections.map (·.1)).Nodup := by decide
  exact .map (distinct.sublist names) each

theorem choice_own {names : List String} (distinct : names.Nodup) (index : Fin names.length) :
    choice names (.text (names.get index)) = .accepted index := by
  have found : names.finIdxOf? (names.get index) = some index := by
    refine List.finIdxOf?_eq_some_iff.mpr ⟨rfl, ?_⟩
    intro earlier before same
    exact List.pairwise_iff_getElem.mp distinct _ _ earlier.isLt index.isLt before same
  rw [choice, text?, Option.bind_some, found]

theorem bundled_conversions_lawful (homes : List (String × String)) :
    (bundledConversions homes).Lawful where
  textSingle := nofun
  flagSingle := nofun
  numberSingle := nofun
  choiceSingle := nofun
  itemsSingle := nofun
  fieldsOwn _ _ := rfl
  textOwn _ := rfl
  flagOwn _ := rfl
  numberOwn _ := rfl
  choiceOwn := choice_own
  itemsOwn _ := rfl

theorem bundled_lawful (homes : List (String × String)) : (bundledTools homes).Lawful where
  toLawful := bundled_conversions_lawful homes
  yamlNamed := document_well_named
  readVariablesNamed := environment_well_named
  merges _ _ := rfl

end EditImpact.Settings
