import EditImpact.Baseline.Cache

/-!
# What the caches hold

Every operation on a store is described by what it does to `get?`, so no later proof looks at the
list of entries. A cached baseline counts only for the head it was stored with: `RefCache.held` is
what a lookup finds at a head, and a lookup that finds nothing leaves nothing behind under its key.
-/

namespace EditImpact.Baseline

set_option autoImplicit false

namespace Store

variable {Key Item : Type} [DecidableEq Key]

theorem get_keep (store : Store Key Item) (test : Key → Bool) (key : Key) :
    (store.keep test).get? key = if test key then store.get? key else none := by
  obtain ⟨entries⟩ := store
  induction entries with
  | nil => simp [keep, get?]
  | cons entry rest ih =>
      obtain ⟨name, item⟩ := entry
      simp only [keep, get?] at ih ⊢
      by_cases same : name = key
      · subst same
        cases kept : test name with
        | true => simp [kept]
        | false => simpa [kept] using ih
      · cases kept : test name with
        | true => simpa [kept, same] using ih
        | false => simpa [kept, same] using ih

theorem get_discard (store : Store Key Item) (key other : Key) :
    (store.discard key).get? other = if other = key then none else store.get? other := by
  have kept := store.get_keep (· != key) other
  have same : store.discard key = store.keep (· != key) := rfl
  rw [same, kept]
  by_cases equal : other = key <;> simp [equal]

theorem get_put (store : Store Key Item) (key other : Key) (item : Item) :
    (store.put key item).get? other = if other = key then some item else store.get? other := by
  have others := store.get_discard key other
  simp only [get?, put, List.find?_append, Option.map_or] at others ⊢
  rw [others]
  by_cases equal : other = key
  · simp [equal]
  · simp [equal, Ne.symm equal]

end Store

namespace RefCache

/-- The baseline that is cached under a key for a head. -/
def held (refs : RefCache) (key : RefKey) (head : String) : Option Resolved :=
  match Store.get? refs key with
  | none => none
  | some entry => if entry.head = head then some entry.baseline else none

@[simp] theorem held_empty (key : RefKey) (head : String) : held {} key head = none := rfl

theorem held_eq_some_iff (refs : RefCache) (key : RefKey) (head : String) (baseline : Resolved) :
    refs.held key head = some baseline ↔ Store.get? refs key = some ⟨head, baseline⟩ := by
  unfold held
  cases stored : Store.get? refs key with
  | none => simp
  | some entry =>
      obtain ⟨at_, item⟩ := entry
      by_cases same : at_ = head <;> simp [same]

theorem lookup_answer (refs : RefCache) (key : RefKey) (head : String) :
    (refs.lookup key (some head)).1 = refs.held key head := by
  unfold lookup held
  cases Store.get? refs key with
  | none => rfl
  | some entry =>
      by_cases same : entry.head = head
      · simp [same]
      · simp [same, Ne.symm same]

theorem lookup_found (refs : RefCache) (key : RefKey) (head : String) (baseline : Resolved)
    (found : refs.held key head = some baseline) :
    refs.lookup key (some head) = (some baseline, refs) := by
  rw [held_eq_some_iff] at found
  simp [lookup, found]

/-- A lookup in vain drops what was stored for another head. -/
theorem get_lookup_missed (refs : RefCache) (key other : RefKey) (head : String)
    (missed : refs.held key head = none) :
    Store.get? (refs.lookup key (some head)).2 other =
      if other = key then none else Store.get? refs other := by
  unfold held at missed
  unfold lookup
  cases stored : Store.get? refs key with
  | none =>
      by_cases equal : other = key
      · simp [equal, stored]
      · simp [equal]
  | some entry =>
      have moved : ¬some head = some entry.head := by
        intro same
        simp [stored, Option.some.inj same] at missed
      simp only [if_neg moved]
      exact Store.get_discard refs key other

theorem get_store (refs : RefCache) (key other : RefKey) (head : String) (baseline : Resolved) :
    Store.get? (refs.store key head baseline) other =
      if other = key then some ⟨head, baseline⟩ else Store.get? refs other :=
  Store.get_put refs key other ⟨head, baseline⟩

theorem get_discard_path (refs : RefCache) (path : String) (key : RefKey) :
    Store.get? (refs.discardPath path) key =
      if key.path = path then none else Store.get? refs key := by
  rw [discardPath, Store.get_keep]
  by_cases own : key.path = path <;> simp [own]

end RefCache

end EditImpact.Baseline
