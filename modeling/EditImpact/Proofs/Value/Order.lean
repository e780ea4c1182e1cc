import EditImpact.Proofs.Value.Spelling
import EditImpact.Value.Order

/-!
Putting fields in name order changes nothing that is looked up by name.
-/

namespace EditImpact.Value

open Json

set_option autoImplicit false

theorem items_in_name_order (items : List Value) :
    itemsInNameOrder items = items.map inNameOrder := by
  induction items with
  | nil => rfl
  | cons item items induction => rw [itemsInNameOrder, induction, List.map_cons]

theorem fields_in_name_order (fields : List (String × Value)) :
    fieldsInNameOrder fields = fields.map fun field => (field.1, field.2.inNameOrder) := by
  induction fields with
  | nil => rfl
  | cons field fields induction =>
      obtain ⟨key, value⟩ := field
      rw [fieldsInNameOrder, induction, List.map_cons]

theorem find_in_name_order (key : String) (fields : List (String × Value)) :
    find? key (fieldsInNameOrder fields) = (find? key fields).map inNameOrder := by
  induction fields with
  | nil => rfl
  | cons field fields induction =>
      obtain ⟨other, value⟩ := field
      rw [fieldsInNameOrder, find_cons, find_cons, induction]
      split <;> rfl

theorem DistinctNames.in_name_order {fields : List (String × Value)}
    (distinct : DistinctNames fields) : DistinctNames (fieldsInNameOrder fields) := by
  rw [DistinctNames, fields_in_name_order, List.map_map]
  exact distinct

theorem map_in_name_order (fields : List (String × Value)) :
    ∃ sorted, (map fields).inNameOrder = map sorted ∧ (fieldsInNameOrder fields).Perm sorted :=
  ⟨_, by rw [inNameOrder], (List.mergeSort_perm _ _).symm⟩

theorem get_in_name_order {value : Value} (textual : Textual value) (key : String) :
    value.inNameOrder.get key = (value.get key).inNameOrder := by
  cases textual with
  | text s => rfl
  | list each => rfl
  | @map fields distinct each =>
      obtain ⟨sorted, same, perm⟩ := map_in_name_order fields
      have found : find? key sorted = (find? key fields).map inNameOrder := by
        rw [← distinct.in_name_order.find_perm perm, find_in_name_order]
      rw [same, get, field?, found, get, field?]
      cases find? key fields <;> rfl

theorem text_in_name_order (value : Value) : value.inNameOrder.text? = value.text? := by
  cases value <;> rfl

theorem list_in_name_order (value : Value) :
    value.inNameOrder.items = value.items.map inNameOrder := by
  cases value with
  | list items => exact items_in_name_order items
  | null | bool b | int n | float x | text s | map fields | special alone inside => rfl

theorem textual_item {value : Value} (textual : Textual value) {key : String} {item : Value}
    (member : item ∈ value.itemsAt key) : Textual item := by
  cases textual with
  | text s => cases member
  | list each => cases member
  | @map fields distinct each =>
      rw [itemsAt, get, field?] at member
      cases found : find? key fields with
      | none =>
          rw [found] at member
          cases member
      | some held =>
          rw [found] at member
          have inside : Textual held := each (key, held) (find_mem found)
          cases inside with
          | text s => cases member
          | map distinct each => cases member
          | list each => exact each item member

theorem textual_in_name_order {value : Value} (textual : Textual value) :
    Textual value.inNameOrder := by
  induction textual with
  | text s => exact .text s
  | @list items _ each =>
      rw [inNameOrder, items_in_name_order]
      refine .list ?_
      intro item member
      obtain ⟨source, inItems, rfl⟩ := List.mem_map.mp member
      exact each source inItems
  | @map fields distinct _ each =>
      obtain ⟨sorted, same, perm⟩ := map_in_name_order fields
      rw [same]
      refine .map ((perm.map Prod.fst).nodup_iff.mp distinct.in_name_order) ?_
      intro field member
      have kept := perm.mem_iff.mpr member
      rw [fields_in_name_order] at kept
      obtain ⟨source, inFields, rfl⟩ := List.mem_map.mp kept
      exact each source inFields

end EditImpact.Value
