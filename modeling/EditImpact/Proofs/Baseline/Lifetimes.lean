import EditImpact.Proofs.Baseline.Store

/-!
# How long a cached baseline lasts

Looking up is not only reading: with a moved head, or with none, it drops the entry it finds. So an
answer depends on all that happened under the key since the baseline was stored. `Operation.Spares`
says what may have happened for the entry to be still there, and a baseline is found exactly when
nothing else did (`lookup_finds_lasting_store`).
-/

namespace EditImpact.Baseline

set_option autoImplicit false

namespace RefCache

inductive Operation where
  | store (key : RefKey) (head : String) (baseline : Resolved)
  | lookup (key : RefKey) (head : Option String)
  | discardPath (path : String)
  | clear
  deriving DecidableEq, Repr

/-- The cache that an operation leaves. -/
def after (refs : RefCache) : Operation → RefCache
  | .store key head baseline => refs.store key head baseline
  | .lookup key head => (refs.lookup key head).2
  | .discardPath path => refs.discardPath path
  | .clear => {}

def run (refs : RefCache) (operations : List Operation) : RefCache := operations.foldl after refs

namespace Operation

/-- The operation has to do with the entries of a path. -/
def Concerns (path : String) : Operation → Prop
  | store key _ _ => key.path = path
  | lookup key _ => key.path = path
  | discardPath other => other = path
  | clear => True

/-- The operation leaves what was stored under a key for a head: it neither replaces nor discards
it, and a lookup under the key is made at that head. -/
def Spares (key : RefKey) (head : String) : Operation → Prop
  | store other _ _ => other ≠ key
  | lookup other asked => other = key → asked = some head
  | discardPath path => path ≠ key.path
  | clear => False

end Operation

section Steps

variable (refs : RefCache)

theorem lookup_eq_some_iff (key : RefKey) (head : Option String) (baseline : Resolved) :
    (refs.lookup key head).1 = some baseline ↔
      ∃ id, head = some id ∧ Store.get? refs key = some ⟨id, baseline⟩ := by
  cases head with
  | none =>
      unfold lookup
      cases Store.get? refs key <;> simp
  | some id => simp [lookup_answer, held_eq_some_iff]

theorem get_lookup_eq_some_iff (key other : RefKey) (head : Option String) (entry : RefEntry) :
    Store.get? (refs.lookup key head).2 other = some entry ↔
      Store.get? refs other = some entry ∧ (key = other → head = some entry.head) := by
  unfold lookup
  cases stored : Store.get? refs key with
  | none =>
      refine ⟨fun found => ⟨found, ?_⟩, And.left⟩
      rintro rfl
      rw [stored] at found
      cases found
  | some there =>
      by_cases same : head = some there.head
      · simp only [if_pos same]
        refine ⟨fun found => ⟨found, ?_⟩, And.left⟩
        rintro rfl
        rw [stored] at found
        rw [same, Option.some.inj found]
      · simp only [if_neg same, Store.get_discard]
        by_cases equal : other = key
        · subst equal
          rw [if_pos rfl, stored]
          constructor
          · intro found
            cases found
          · rintro ⟨found, kept⟩
            exact absurd (Option.some.inj found ▸ kept rfl) same
        · rw [if_neg equal]
          exact ⟨fun found => ⟨found, fun again => absurd again.symm equal⟩, And.left⟩

/-- An entry that is there after an operation was stored by it or spared by it. -/
theorem get_after_eq_some_iff (operation : Operation) (key : RefKey) (entry : RefEntry) :
    Store.get? (refs.after operation) key = some entry ↔
      operation = .store key entry.head entry.baseline ∨
        Store.get? refs key = some entry ∧ operation.Spares key entry.head := by
  cases operation with
  | store other head baseline =>
      rw [after, get_store]
      by_cases same : key = other
      · subst same
        cases entry
        simp [Operation.Spares]
      · simp [same, Ne.symm same, Operation.Spares]
  | lookup other head => simp [after, get_lookup_eq_some_iff, Operation.Spares]
  | discardPath path =>
      rw [after, get_discard_path]
      by_cases own : key.path = path
      · simp [own, Operation.Spares]
      · simp [own, Ne.symm own, Operation.Spares]
  | clear => simp [after, Store.get?, Operation.Spares]

/-- What happens to other files leaves an entry as it is. -/
theorem get_after_elsewhere {operation : Operation} {key : RefKey}
    (elsewhere : ¬operation.Concerns key.path) :
    Store.get? (refs.after operation) key = Store.get? refs key := by
  have other {named : RefKey} (different : named.path ≠ key.path) : named ≠ key :=
    fun same => different (congrArg RefKey.path same)
  have spared (head : String) : operation.Spares key head := by
    cases operation with
    | store named head baseline => exact other elsewhere
    | lookup named head => exact fun same => absurd same (other elsewhere)
    | discardPath path => exact elsewhere
    | clear => exact absurd trivial elsewhere
  have unstored (entry : RefEntry) : operation ≠ .store key entry.head entry.baseline := by
    rintro rfl
    exact elsewhere rfl
  apply Option.ext
  intro entry
  rw [get_after_eq_some_iff]
  simp [spared, unstored entry]

end Steps

/-- An entry was stored, and all later operations spared it. -/
def Lasts (operations : List Operation) (key : RefKey) (entry : RefEntry) : Prop :=
  ∃ earlier later, operations = earlier ++ .store key entry.head entry.baseline :: later ∧
    ∀ operation ∈ later, operation.Spares key entry.head

theorem not_lasts_nil (key : RefKey) (entry : RefEntry) : ¬Lasts [] key entry := by
  rintro ⟨earlier, later, split, -⟩
  simp at split

theorem lasts_cons_iff (operation : Operation) (rest : List Operation) (key : RefKey)
    (entry : RefEntry) :
    Lasts (operation :: rest) key entry ↔
      Lasts rest key entry ∨ operation = .store key entry.head entry.baseline ∧
        ∀ later ∈ rest, later.Spares key entry.head := by
  constructor
  · rintro ⟨earlier, later, split, spared⟩
    cases earlier with
    | nil =>
        obtain ⟨rfl, rfl⟩ := List.cons.inj split
        exact .inr ⟨rfl, spared⟩
    | cons first others =>
        obtain ⟨rfl, rfl⟩ := List.cons.inj split
        exact .inl ⟨others, later, rfl, spared⟩
  · rintro (⟨earlier, later, rfl, spared⟩ | ⟨rfl, spared⟩)
    · exact ⟨operation :: earlier, later, rfl, spared⟩
    · exact ⟨[], rest, rfl, spared⟩

/-- What a run leaves under a key it stored itself, or found there and spared throughout. -/
theorem get_run_eq_some_iff (refs : RefCache) (operations : List Operation) (key : RefKey)
    (entry : RefEntry) :
    Store.get? (refs.run operations) key = some entry ↔
      Lasts operations key entry ∨ Store.get? refs key = some entry ∧
        ∀ operation ∈ operations, operation.Spares key entry.head := by
  induction operations generalizing refs with
  | nil => simp [run, not_lasts_nil]
  | cons operation rest induction =>
      have continued : refs.run (operation :: rest) = (refs.after operation).run rest := rfl
      rw [continued, induction, get_after_eq_some_iff, lasts_cons_iff, List.forall_mem_cons,
        or_and_right, or_assoc, and_assoc]

/-- From the empty cache, a lookup finds a baseline exactly when it was stored under the key for the
head at hand, and since then the key was not stored again, neither it nor its path was discarded,
and every lookup of it was made at that head. No operation on one path reaches the entries of
another, and discarding a path drops its entries under every root, mode and target. -/
theorem lookup_finds_lasting_store (operations : List Operation) (key : RefKey)
    (head : Option String) (baseline : Resolved) :
    (((run {} operations).lookup key head).1 = some baseline ↔
        ∃ id, head = some id ∧ ∃ earlier later,
          operations = earlier ++ .store key id baseline :: later ∧
            ∀ operation ∈ later, operation.Spares key id) ∧
      (∀ (refs : RefCache) (operation : Operation), ¬operation.Concerns key.path →
        Store.get? (refs.after operation) key = Store.get? refs key) ∧
      ∀ (refs : RefCache) (path : String) (root : Option Path) (mode target : String),
        Store.get? (refs.discardPath path) ⟨root, path, mode, target⟩ = none := by
  refine ⟨?_, fun refs operation => get_after_elsewhere refs, fun refs path root mode target => ?_⟩
  · rw [lookup_eq_some_iff]
    refine exists_congr fun id => and_congr_right fun _ => ?_
    rw [get_run_eq_some_iff]
    simp [Lasts, Store.get?]
  · rw [get_discard_path, if_pos rfl]

/-- A lookup at another head ends an entry, even if the head moves back. -/
example :
    let key : RefKey := ⟨none, "a.ts", "local", "HEAD"⟩
    let baseline : Resolved := ⟨[.char 'x'], ⟨.head, true, none, none, none⟩, false⟩
    ((run {} [.store key "c1" baseline, .lookup key (some "c2")]).lookup key (some "c1")).1 =
      none := by
  decide

end RefCache

end EditImpact.Baseline
