import EditImpact.Proofs.Value.Overlay
import EditImpact.Value.Json
import EditImpact.Yaml.Read

/-!
Data that were read from JSON or YAML have no map with two fields of one name: a later field takes
the place of an earlier one.
-/

namespace EditImpact

open Value

set_option autoImplicit false

namespace Json

theorem well_named_word {text rest : List Char} {value : Value}
    (read : readWord text = some (value, rest)) : WellNamed value := by
  obtain ⟨⟨word, held⟩, member, found⟩ := List.exists_of_findSome?_eq_some read
  simp only [Option.ite_none_right_eq_some, Option.some.injEq, Prod.mk.injEq] at found
  obtain ⟨-, rfl, -⟩ := found
  simp only [wordValues, List.mem_cons, Prod.mk.injEq, List.not_mem_nil, or_false] at member
  rcases member with ⟨-, rfl⟩ | ⟨-, rfl⟩ | ⟨-, rfl⟩ | ⟨-, rfl⟩ | ⟨-, rfl⟩ | ⟨-, rfl⟩ <;>
    exact .single rfl

theorem well_named_number {text rest : List Char} {value : Value}
    (read : readNumber text = some (value, rest)) : WellNamed value := by
  unfold readNumber at read
  split at read
  split at read
  split at read
  split at read
  · cases read
  · split at read
    split at read
    · cases read
      exact .single rfl
    · split at read
      · cases read
        exact .single rfl
      · cases read
        exact .single rfl

def NamesValues (fuel : Nat) : Prop :=
  ∀ {text value rest}, readValue fuel text = some (value, rest) → WellNamed value

def NamesFields (fuel : Nat) : Prop :=
  ∀ {text fields rest}, readFields fuel text = some (fields, rest) → WellNamed (.map fields)

theorem names_values_next {fuel : Nat} (fields : NamesFields fuel) : NamesValues (fuel + 1) := by
  intro text value rest read
  rw [readValue] at read
  split at read
  · cases read
  · obtain ⟨found, -, same⟩ := Option.map_eq_some_iff.mp read
    cases same
    exact .single rfl
  · split at read
    · cases read
      exact .single rfl
    · obtain ⟨found, -, same⟩ := Option.map_eq_some_iff.mp read
      cases same
      exact .single rfl
  · split at read
    · cases read
      exact .empty
    · obtain ⟨⟨found, left⟩, inside, same⟩ := Option.map_eq_some_iff.mp read
      cases same
      exact fields inside
  · split at read
    · next word =>
        cases read
        exact well_named_word word
    · exact well_named_number read

theorem names_fields_next {fuel : Nat} (values : NamesValues fuel) (fields : NamesFields fuel) :
    NamesFields (fuel + 1) := by
  intro text found rest read
  rw [readFields] at read
  split at read
  · split at read
    · cases read
    · split at read
      · split at read
        · cases read
        · next value _ first =>
            have named := values first
            dsimp only at read
            split at read
            · cases read
              exact .one _ named
            · obtain ⟨⟨later, left⟩, inside, same⟩ := Option.map_eq_some_iff.mp read
              have others := fields inside
              dsimp only at same
              split at same
              · cases same
                exact others
              · next fresh =>
                  cases same
                  refine .map (List.nodup_cons.mpr ⟨?_, others.distinct⟩) ?_
                  · intro member
                    obtain ⟨field, inLater, name⟩ := List.mem_map.mp member
                    exact fresh (List.any_eq_true.mpr ⟨field, inLater, beq_iff_eq.mpr name⟩)
                  · intro field member
                    rcases List.mem_cons.mp member with rfl | inLater
                    · exact named
                    · exact others.each field inLater
            · cases read
      · cases read
  · cases read

theorem names (fuel : Nat) : NamesValues fuel ∧ NamesFields fuel := by
  induction fuel with
  | zero =>
      constructor
      · intro text value rest read
        cases read
      · intro text fields rest read
        cases read
  | succ fuel induction =>
      obtain ⟨values, fields⟩ := induction
      exact ⟨names_values_next fields, names_fields_next values fields⟩

theorem read_well_named {text : List Char} {value : Value} (read : read? text = some value) :
    WellNamed value := by
  unfold read? at read
  split at read
  · next found rest inside =>
      split at read
      · cases read
        exact (names _).1 inside
      · cases read
  · cases read

end Json

namespace Yaml

theorem scalar_single (text : List Char) : (scalar text).isMap = false := by
  unfold scalar
  dsimp only
  repeat' split
  all_goals rfl

theorem Fields.well_named_put {held : Fields} (named : WellNamed (.map held.fields)) (key : Value)
    {value : Value} (inside : WellNamed value) : WellNamed (.map (held.put key value).fields) := by
  unfold Fields.put
  split
  · exact named.put_field _ inside
  · exact named

def NamesFlowValues (fuel : Nat) : Prop :=
  ∀ {place after read}, flowValue fuel place = some (read, after) → WellNamed read.value

def NamesFlowFields (fuel : Nat) : Prop :=
  ∀ {held place after fields}, WellNamed (.map held.fields) →
    flowFields fuel held place = some (fields, after) → WellNamed (.map fields.fields)

theorem names_flow_values_next {fuel : Nat} (fields : NamesFlowFields fuel) :
    NamesFlowValues (fuel + 1) := by
  intro place after found read
  rw [flowValue] at read
  split at read
  · obtain ⟨items, -, same⟩ := Option.map_eq_some_iff.mp read
    cases same
    exact .single rfl
  · obtain ⟨⟨held, last⟩, inside, same⟩ := Option.map_eq_some_iff.mp read
    cases same
    exact fields WellNamed.empty inside
  · split at read
    · obtain ⟨text, -, same⟩ := Option.map_eq_some_iff.mp read
      cases same
      exact .single rfl
    · split at read
      · cases read
        exact .single (scalar_single _)
      · cases read
  · cases read

theorem names_flow_fields_next {fuel : Nat} (values : NamesFlowValues fuel)
    (fields : NamesFlowFields fuel) : NamesFlowFields (fuel + 1) := by
  intro held place after found named read
  rw [flowFields] at read
  split at read
  · cases read
    exact named
  · split at read
    · cases read
    · dsimp only at read
      split at read
      · cases read
      · next value last paired =>
          have inside : WellNamed value := by
            split at paired
            · split at paired
              · cases paired
                exact .single rfl
              · cases paired
                exact .single rfl
              · obtain ⟨⟨inner, behind⟩, readInner, same⟩ := Option.map_eq_some_iff.mp paired
                cases same
                exact values readInner
            · cases paired
              exact .single rfl
          split at read
          · exact fields (Fields.well_named_put named _ inside) read
          · cases read
            exact Fields.well_named_put named _ inside
          · cases read

theorem names_flow (fuel : Nat) : NamesFlowValues fuel ∧ NamesFlowFields fuel := by
  induction fuel with
  | zero =>
      constructor
      · intro place after found read
        cases read
      · intro held place after fields named read
        cases read
  | succ fuel induction =>
      obtain ⟨values, fields⟩ := induction
      exact ⟨names_flow_values_next fields, names_flow_fields_next values fields⟩

theorem well_named_block_text {indent : Int} {folded : Bool} {place after : Place} {value : Value}
    (read : blockText indent folded place = some (value, after)) : WellNamed value := by
  unfold blockText at read
  dsimp only at read
  split at read
  · cases read
  · cases read
    exact .single rfl

theorem well_named_inline {indent : Int} {place after : Place} {found : Read}
    (read : inlineValue indent place = some (found, after)) : WellNamed found.value := by
  unfold inlineValue at read
  split at read
  · cases read
  · obtain ⟨⟨value, last⟩, inside, same⟩ := Option.map_eq_some_iff.mp read
    cases same
    exact well_named_block_text inside
  · obtain ⟨⟨value, last⟩, inside, same⟩ := Option.map_eq_some_iff.mp read
    cases same
    exact well_named_block_text inside
  · split at read
    · exact (names_flow _).1 read
    · split at read
      · cases read
        exact .single (scalar_single _)
      · cases read

def NamesBlockValues (fuel : Nat) : Prop :=
  ∀ {indent place after read}, blockValue fuel indent place = some (read, after) →
    WellNamed read.value

def NamesBlockFields (fuel : Nat) : Prop :=
  ∀ {column held place after fields}, WellNamed (.map held.fields) →
    blockFields fuel column held place = some (fields, after) → WellNamed (.map fields.fields)

theorem names_block_values_next {fuel : Nat} (fields : NamesBlockFields fuel) :
    NamesBlockValues (fuel + 1) := by
  intro indent place after found read
  rw [blockValue] at read
  split at read
  · obtain ⟨items, -, same⟩ := Option.map_eq_some_iff.mp read
    cases same
    exact .single rfl
  · split at read
    · obtain ⟨⟨held, last⟩, inside, same⟩ := Option.map_eq_some_iff.mp read
      cases same
      exact fields WellNamed.empty inside
    · exact well_named_inline read

theorem names_block_fields_next {fuel : Nat} (values : NamesBlockValues fuel)
    (fields : NamesBlockFields fuel) : NamesBlockFields (fuel + 1) := by
  intro column held place after found named read
  rw [blockFields] at read
  split at read
  · cases read
  · split at read
    dsimp only at read
    split at read
    · cases read
    · next value last valued =>
        have inside : WellNamed value := by
          split at valued
          · cases valued
            exact .single rfl
          · split at valued
            · obtain ⟨⟨inner, behind⟩, readInner, same⟩ := Option.map_eq_some_iff.mp valued
              cases same
              exact well_named_inline readInner
            · split at valued
              · obtain ⟨⟨inner, behind⟩, readInner, same⟩ := Option.map_eq_some_iff.mp valued
                cases same
                exact values readInner
              · split at valued
                · obtain ⟨items, -, same⟩ := Option.map_eq_some_iff.mp valued
                  cases same
                  exact .single rfl
                · cases valued
                  exact .single rfl
        have put := Fields.well_named_put named
        split at read
        · cases read
          exact put _ inside
        · split at read
          · split at read
            · exact fields (put _ inside) read
            · cases read
              exact put _ inside
          · cases read

theorem names_block (fuel : Nat) : NamesBlockValues fuel ∧ NamesBlockFields fuel := by
  induction fuel with
  | zero =>
      constructor
      · intro indent place after found read
        cases read
      · intro column held place after fields named read
        cases read
  | succ fuel induction =>
      obtain ⟨values, fields⟩ := induction
      exact ⟨names_block_values_next fields, names_block_fields_next values fields⟩

theorem document_well_named {text : List Char} {found : Read}
    (read : readDocument? text = some found) : WellNamed found.value := by
  unfold readDocument? at read
  extract_lets first marked start at read
  split at read
  dsimp only at read
  split at read
  · cases read
  · next whole last inside =>
      have named : WellNamed whole.value := by
        split at inside
        · cases inside
          exact .single rfl
        · split at inside
          · exact well_named_inline inside
          · exact (names_block _).1 inside
      split at read
      · cases read
        exact named
      · split at read
        · cases read
          exact named
        · cases read

theorem read_well_named {text : List Char} {found : Read} (read : read? text = some found) :
    WellNamed found.value := by
  unfold read? at read
  split at read
  · exact document_well_named read
  · cases read

end Yaml

end EditImpact
