import EditImpact.Proofs.Value.Fields
import EditImpact.Value.Merge

/-!
Laying data over other data, path by path. What is found at the end of a path of keys is what the
upper data have there, or else what the lower data have, unless the upper data end on the way.
-/

namespace EditImpact.Value

set_option autoImplicit false

/-- What a path of keys leads to, if anything. -/
def at? : Value → List String → Option Value
  | value, [] => some value
  | map fields, key :: keys => (find? key fields).bind (·.at? keys)
  | _, _ :: _ => none

def isMap : Value → Bool
  | map _ => true
  | _ => false

/-- The maps that a path can lead through have no two fields of one name. -/
inductive WellNamed : Value → Prop where
  | map {fields : List (String × Value)} (distinct : DistinctNames fields)
      (each : ∀ field ∈ fields, WellNamed field.2) : WellNamed (.map fields)
  | single {value : Value} (single : value.isMap = false) : WellNamed value

theorem eq_map_of_is_map {value : Value} (mapped : value.isMap = true) :
    ∃ fields, value = .map fields := by
  cases value with
  | map fields => exact ⟨fields, rfl⟩
  | null | bool b | int n | float x | text s | list items | special alone inside => cases mapped

namespace WellNamed

variable {fields : List (String × Value)}

theorem empty : WellNamed (.map []) := .map List.nodup_nil fun _ member => nomatch member

theorem one (name : String) {value : Value} (inside : WellNamed value) :
    WellNamed (.map [(name, value)]) :=
  .map (List.nodup_cons.mpr ⟨List.not_mem_nil, List.nodup_nil⟩) fun _ only =>
    List.mem_singleton.mp only ▸ inside

theorem distinct (named : WellNamed (.map fields)) : DistinctNames fields := by
  cases named with
  | map distinct each => exact distinct
  | single single => cases single

theorem each (named : WellNamed (.map fields)) : ∀ field ∈ fields, WellNamed field.2 := by
  cases named with
  | map distinct each => exact each
  | single single => cases single

theorem found (named : WellNamed (.map fields)) {key : String} {value : Value}
    (found : find? key fields = some value) : WellNamed value :=
  named.each (key, value) (find_mem found)

theorem put_field (named : WellNamed (.map fields)) (key : String) {value : Value}
    (inside : WellNamed value) : WellNamed (.map (putField key value fields)) := by
  refine .map (named.distinct.put_field key value) ?_
  intro field member
  rcases mem_put_field member with rfl | kept
  · exact inside
  · exact named.each field kept

end WellNamed

theorem at_single {value : Value} (single : value.isMap = false) (key : String)
    (keys : List String) : value.at? (key :: keys) = none := by
  cases value with
  | map fields => cases single
  | null | bool b | int n | float x | text s | list items | special alone inside => rfl

theorem overlay_single (base : Value) {top : Value} (single : top.isMap = false) :
    overlay base top = top := by
  cases top with
  | map fields => cases single
  | null | bool b | int n | float x | text s | list items | special alone inside => rfl

theorem overlay_on_single {base : Value} (single : base.isMap = false) (top : Value) :
    overlay base top = top := by
  cases top with
  | map fields =>
      cases base with
      | map held => cases single
      | null | bool b | int n | float x | text s | list items | special alone inside => rfl
  | null | bool b | int n | float x | text s | list items | special alone inside => rfl

theorem overlay_maps (held fields : List (String × Value)) :
    overlay (map held) (map fields) = map (overlayFields held fields) := by
  rw [overlay]

/-- A value laid over what there may be. -/
def laidOver (base : Option Value) (value : Value) : Value :=
  match base with
  | some base => overlay base value
  | none => value

theorem overlay_fields_cons (held : List (String × Value)) (key : String) (value : Value)
    (fields : List (String × Value)) :
    overlayFields held ((key, value) :: fields) =
      overlayFields (putField key (laidOver (find? key held) value) held) fields := by
  rw [overlayFields]
  rfl

/-- Each name is merged by itself. -/
theorem find_overlay_fields {fields : List (String × Value)} (distinct : DistinctNames fields)
    (held : List (String × Value)) (key : String) :
    find? key (overlayFields held fields) =
      match find? key fields with
      | some value => some (laidOver (find? key held) value)
      | none => find? key held := by
  induction fields generalizing held with
  | nil => rw [overlayFields]; rfl
  | cons field fields induction =>
      obtain ⟨name, value⟩ := field
      rw [overlay_fields_cons, induction distinct.tail, find_put_field, find_cons]
      by_cases same : name = key
      · cases same
        simp only [distinct.not_below, if_true]
      · simp only [if_neg same]

/-- Whether a path ends on the way in a value that is no map. -/
def Blocks (top : Value) (path : List String) : Prop :=
  ∃ short, short <+: path ∧ short ≠ path ∧ ∃ value, top.at? short = some value ∧
    value.isMap = false

theorem blocks_single {top : Value} (single : top.isMap = false) (key : String)
    (keys : List String) : Blocks top (key :: keys) :=
  ⟨[], List.nil_prefix, (List.cons_ne_nil key keys).symm, top, by cases top <;> rfl, single⟩

theorem blocks_cons_iff (fields : List (String × Value)) (key : String) (keys : List String) :
    Blocks (map fields) (key :: keys) ↔
      ∃ value, find? key fields = some value ∧ Blocks value keys := by
  constructor
  · rintro ⟨short, start, proper, last, reached, single⟩
    cases short with
    | nil =>
        cases reached
        cases single
    | cons first short =>
        obtain ⟨rfl, further⟩ := List.cons_prefix_cons.mp start
        obtain ⟨value, found, reached⟩ := Option.bind_eq_some_iff.mp reached
        exact ⟨value, found, short, further, fun same => proper (congrArg _ same), last, reached,
          single⟩
  · rintro ⟨value, found, short, start, proper, last, reached, single⟩
    refine ⟨key :: short, List.cons_prefix_cons.mpr ⟨rfl, start⟩,
      fun same => proper (List.cons.inj same).2, last, ?_, single⟩
    rw [at?, found]
    exact reached

/-- What the end of a path holds after a merge, where it is no map: what the upper data have there,
or what the lower data have, if the upper ones have nothing there and do not block the way. -/
theorem overlay_at {top : Value} (named : WellNamed top) {value : Value}
    (single : value.isMap = false) (base : Value) (path : List String) :
    (overlay base top).at? path = some value ↔
      top.at? path = some value ∨
        top.at? path = none ∧ base.at? path = some value ∧ ¬ Blocks top path := by
  induction path generalizing base top with
  | nil =>
      cases mapped : top.isMap with
      | false =>
          rw [overlay_single base mapped]
          simp [at?]
      | true =>
          obtain ⟨fields, rfl⟩ := eq_map_of_is_map mapped
          have notMap (others : List (String × Value)) : map others ≠ value := by
            rintro rfl
            cases single
          cases base <;> simp [overlay, at?, notMap]
  | cons key keys induction =>
      cases mapped : top.isMap with
      | false =>
          rw [overlay_single base mapped, at_single mapped]
          simp [blocks_single mapped]
      | true =>
          obtain ⟨fields, rfl⟩ := eq_map_of_is_map mapped
          cases below : base.isMap with
          | false =>
              rw [overlay_on_single below, at_single below]
              simp
          | true =>
              obtain ⟨held, rfl⟩ := eq_map_of_is_map below
              rw [overlay_maps, at?, at?, at?, blocks_cons_iff,
                find_overlay_fields named.distinct]
              cases found : find? key fields with
              | none => simp
              | some upper =>
                  have next := named.found found
                  cases find? key held with
                  | none => simp [laidOver]
                  | some lower => simpa [laidOver] using induction next lower

/-! ### Merged data are well named -/

theorem well_named_fields {held fields : List (String × Value)} (named : WellNamed (map held))
    (each : ∀ field ∈ fields, ∀ base, WellNamed base → WellNamed (overlay base field.2))
    (own : ∀ field ∈ fields, WellNamed field.2) :
    WellNamed (map (overlayFields held fields)) := by
  induction fields generalizing held with
  | nil =>
      rw [overlayFields]
      exact named
  | cons field fields induction =>
      obtain ⟨key, value⟩ := field
      rw [overlay_fields_cons]
      have laid : WellNamed (laidOver (find? key held) value) := by
        unfold laidOver
        split
        · next base found =>
            exact each (key, value) List.mem_cons_self base (named.found found)
        · exact own (key, value) List.mem_cons_self
      exact induction (named.put_field key laid)
        (fun other member => each other (List.mem_cons_of_mem _ member))
        (fun other member => own other (List.mem_cons_of_mem _ member))

theorem well_named_overlay {top : Value} (named : WellNamed top) {base : Value}
    (below : WellNamed base) : WellNamed (overlay base top) := by
  induction named generalizing base with
  | single single =>
      rw [overlay_single base single]
      exact .single single
  | @map fields distinct each induction =>
      cases below with
      | single single =>
          rw [overlay_on_single single]
          exact .map distinct each
      | @map held others eachBelow =>
          rw [overlay_maps]
          exact well_named_fields (.map others eachBelow)
            (fun field member base named => induction field member named) each

end EditImpact.Value
