import EditImpact.Value.Basic

/-!
The fields of a map, looked up by name. Where names are distinct, what is found under a name is the
field of that name, wherever it stands.
-/

namespace EditImpact.Value

set_option autoImplicit false

/-- No two fields have one name. -/
def DistinctNames (fields : List (String × Value)) : Prop := (fields.map (·.1)).Nodup

instance (fields : List (String × Value)) : Decidable (DistinctNames fields) :=
  inferInstanceAs (Decidable (fields.map (·.1)).Nodup)

theorem find_cons (key other : String) (value : Value) (fields : List (String × Value)) :
    find? key ((other, value) :: fields) = if other = key then some value else find? key fields := by
  by_cases same : other = key <;> simp [find?, same]

theorem find_mem {key : String} {value : Value} {fields : List (String × Value)}
    (found : find? key fields = some value) : (key, value) ∈ fields := by
  induction fields with
  | nil => cases found
  | cons field fields induction =>
      obtain ⟨other, held⟩ := field
      rw [find_cons] at found
      split at found
      · next same =>
          cases found
          rw [same]
          exact List.mem_cons_self
      · exact List.mem_cons_of_mem _ (induction found)

theorem find_eq_none_iff (key : String) (fields : List (String × Value)) :
    find? key fields = none ↔ key ∉ fields.map (·.1) := by
  simp only [find?, Option.map_eq_none_iff, List.find?_eq_none, beq_iff_eq, List.mem_map, not_exists,
    not_and]

theorem find_put_field (key other : String) (value : Value) (fields : List (String × Value)) :
    find? other (putField key value fields) =
      if key = other then some value else find? other fields := by
  induction fields with
  | nil => exact find_cons other key value []
  | cons field fields induction =>
      obtain ⟨name, held⟩ := field
      rw [putField]
      split
      · next same =>
          rw [eq_of_beq same, find_cons, find_cons]
          split <;> rfl
      · next apart =>
          rw [find_cons, find_cons, induction]
          split
          · next here =>
              rw [if_neg]
              rintro rfl
              exact apart (beq_iff_eq.mpr here)
          · rfl

theorem mem_put_field {key : String} {value : Value} {fields : List (String × Value)}
    {field : String × Value} (member : field ∈ putField key value fields) :
    field = (key, value) ∨ field ∈ fields := by
  induction fields with
  | nil => exact .inl (List.mem_singleton.mp member)
  | cons held fields induction =>
      obtain ⟨name, other⟩ := held
      rw [putField] at member
      split at member
      · rcases List.mem_cons.mp member with here | later
        · exact .inl here
        · exact .inr (List.mem_cons_of_mem _ later)
      · rcases List.mem_cons.mp member with here | later
        · exact .inr (here ▸ List.mem_cons_self)
        · exact (induction later).imp_right (List.mem_cons_of_mem _)

theorem find_is_some_iff (key : String) (fields : List (String × Value)) :
    (find? key fields).isSome = true ↔ key ∈ fields.map (·.1) := by
  rw [Option.isSome_iff_ne_none, ne_eq, find_eq_none_iff, Decidable.not_not]

theorem names_put_field (key : String) (value : Value) (fields : List (String × Value))
    (name : String) :
    name ∈ (putField key value fields).map (·.1) ↔ name = key ∨ name ∈ fields.map (·.1) := by
  rw [← find_is_some_iff, ← find_is_some_iff, find_put_field]
  by_cases same : key = name
  · simp [same]
  · simp [same, Ne.symm same]

namespace DistinctNames

variable {fields : List (String × Value)}

theorem tail {field : String × Value} (distinct : DistinctNames (field :: fields)) :
    DistinctNames fields :=
  (List.nodup_cons.mp distinct).2

theorem not_below {key : String} {value : Value} (distinct : DistinctNames ((key, value) :: fields)) :
    find? key fields = none :=
  (find_eq_none_iff key fields).mpr (List.nodup_cons.mp distinct).1

theorem find_eq_some_iff (distinct : DistinctNames fields) (key : String) (value : Value) :
    find? key fields = some value ↔ (key, value) ∈ fields := by
  refine ⟨find_mem, ?_⟩
  intro member
  induction fields with
  | nil => cases member
  | cons field fields induction =>
      obtain ⟨other, held⟩ := field
      rw [find_cons]
      rcases List.mem_cons.mp member with same | later
      · cases same
        exact if_pos rfl
      · rw [if_neg, induction distinct.tail later]
        rintro rfl
        exact (List.nodup_cons.mp distinct).1 (List.mem_map.mpr ⟨_, later, rfl⟩)

theorem put_field (distinct : DistinctNames fields) (key : String) (value : Value) :
    DistinctNames (putField key value fields) := by
  induction fields with
  | nil => exact List.nodup_cons.mpr ⟨List.not_mem_nil, List.nodup_nil⟩
  | cons field fields induction =>
      obtain ⟨name, held⟩ := field
      obtain ⟨fresh, rest⟩ := List.nodup_cons.mp distinct
      rw [putField]
      split
      · next same =>
          rw [← eq_of_beq same]
          exact List.nodup_cons.mpr ⟨fresh, rest⟩
      · next apart =>
          refine List.nodup_cons.mpr ⟨?_, induction rest⟩
          intro member
          rcases (names_put_field key value fields name).mp member with same | later
          · exact apart (beq_iff_eq.mpr same)
          · exact fresh later

/-- The order of fields makes no difference to what is found. -/
theorem find_perm (distinct : DistinctNames fields) {others : List (String × Value)}
    (perm : fields.Perm others) (key : String) : find? key fields = find? key others := by
  have distinctOthers : DistinctNames others := (perm.map Prod.fst).nodup_iff.mp distinct
  apply Option.ext
  intro value
  rw [distinct.find_eq_some_iff, distinctOthers.find_eq_some_iff, perm.mem_iff]

end DistinctNames

end EditImpact.Value
