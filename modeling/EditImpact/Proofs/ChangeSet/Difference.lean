import EditImpact.ChangeSet
import EditImpact.Inventory.Collect
import Mathlib.Data.List.Nodup

/-!
# What a change set lists

The change set of two texts lists each declaration of the first text that is gone from the second,
or that is known in both with different signatures, once and in the order of first appearance
(`reports_gone_and_resigned`). What only the second text declares is never listed, and for what both
declare the direction of the edit makes no difference.
-/

namespace EditImpact

set_option autoImplicit false

namespace Inventory

/-- The names of a kind in source order, one for each declaration. -/
def declared (inventory : Inventory) (kind : DeclarationKind) : List String :=
  (inventory.declarations.filter (·.kind == kind)).map (·.name)

theorem filter_distinct (keep : String → Bool) (names : List String) :
    (distinct names).filter keep = distinct (names.filter keep) := by
  induction names with
  | nil => rfl
  | cons name names induction =>
      by_cases kept : keep name = true
      · rw [distinct, List.filter_cons_of_pos kept, List.filter_cons_of_pos kept, distinct,
          ← induction, List.filter_filter, List.filter_filter]
        congr 1
        apply List.filter_congr
        intro other _
        exact Bool.and_comm _ _
      · rw [distinct, List.filter_cons_of_neg kept, List.filter_cons_of_neg kept, ← induction,
          List.filter_filter]
        apply List.filter_congr
        intro other _
        by_cases same : other = name
        · subst same
          simpa using kept
        · simp [same]

theorem distinct_eq_erase_dups (names : List String) : distinct names = names.eraseDups := by
  induction length : names.length using Nat.strongRecOn generalizing names with
  | ind count induction =>
      cases names with
      | nil => rfl
      | cons name names =>
          have shorter : (names.filter (· != name)).length < count := by
            have bound := List.length_filter_le (· != name) names
            rw [List.length_cons] at length
            omega
          rw [distinct, filter_distinct, induction _ shorter _ rfl, List.eraseDups_cons]
          rfl

theorem names_eq (inventory : Inventory) (kind : DeclarationKind) :
    inventory.names kind = (inventory.declared kind).eraseDups :=
  distinct_eq_erase_dups _

theorem mem_names (inventory : Inventory) (kind : DeclarationKind) (name : String) :
    name ∈ inventory.names kind ↔ name ∈ inventory.declared kind := by
  rw [names_eq, List.mem_eraseDups]

theorem nodup_distinct (names : List String) : (distinct names).Nodup := by
  induction names with
  | nil => exact List.nodup_nil
  | cons name names induction =>
      rw [distinct, List.nodup_cons]
      constructor
      · intro member
        have other := List.of_mem_filter member
        rw [bne_self_eq_false] at other
        cases other
      · exact induction.filter _

end Inventory

namespace ChangeSet

/-- The listed names of a kind. -/
def listed (changes : ChangeSet) : DeclarationKind → List String
  | .function => changes.functions
  | .class => changes.classes

/-- Both signatures are known, and they differ. -/
def Resigned (language : Option Language) (kind : DeclarationKind) (before after : Version)
    (name : String) : Prop :=
  ∃ old new, signatureOf language kind before.text before.inventory name = some old ∧
    signatureOf language kind after.text after.inventory name = some new ∧ old ≠ new

theorem resigned_comm {language : Option Language} {kind : DeclarationKind}
    {before after : Version} {name : String} :
    Resigned language kind before after name ↔ Resigned language kind after before name := by
  constructor
  · rintro ⟨old, new, known, knownToo, differ⟩
    exact ⟨new, old, knownToo, known, differ.symm⟩
  · rintro ⟨old, new, known, knownToo, differ⟩
    exact ⟨new, old, knownToo, known, differ.symm⟩

section Broken

variable {language : Option Language} {kind : DeclarationKind} {before after : Version}
  {name : String}

theorem breaks_iff_gone_or_resigned :
    breaks language kind before after name = true ↔
      name ∉ after.inventory.declared kind ∨ Resigned language kind before after name := by
  rw [← Inventory.mem_names]
  by_cases kept : name ∈ after.inventory.names kind
  · have contained := List.contains_iff_mem.mpr kept
    unfold breaks Resigned
    rw [if_pos contained]
    cases signatureOf language kind before.text before.inventory name with
    | none => simp [kept]
    | some old =>
        cases signatureOf language kind after.text after.inventory name with
        | none => simp [kept]
        | some new => simp [kept]
  · have missing : ¬(after.inventory.names kind).contains name = true := by
      rwa [List.contains_iff_mem]
    unfold breaks
    rw [if_neg missing]
    exact ⟨fun _ => .inl kept, fun _ => rfl⟩

theorem mem_broken :
    name ∈ broken language kind before after ↔ name ∈ before.inventory.declared kind ∧
      (name ∉ after.inventory.declared kind ∨ Resigned language kind before after name) := by
  rw [broken, List.mem_filter, Inventory.mem_names, breaks_iff_gone_or_resigned]

theorem broken_nodup : (broken language kind before after).Nodup :=
  (Inventory.nodup_distinct _).filter _

theorem broken_sublist :
    (broken language kind before after).Sublist (before.inventory.declared kind).eraseDups := by
  rw [← Inventory.names_eq]
  exact List.filter_sublist

end Broken

section Between

variable (collect : List Char → Option Language → Inventory) {before after : List Char}
  {language : Option Language}

/-- At least one of the two inventories could not be taken. -/
def Unread (language : Option Language) (before after : List Char) : Prop :=
  (collect before language).status = .failed ∨ (collect after language).status = .failed

/-- The three ways in which a change set comes about. -/
theorem between_cases (language : Option Language) (before after : List Char) :
    (before = after ∧ betweenWith collect before after language = { status := .notAttempted }) ∨
    (before ≠ after ∧ Unread collect language before after ∧
      betweenWith collect before after language = { status := .failed }) ∨
    (before ≠ after ∧ ¬Unread collect language before after ∧
      (betweenWith collect before after language).status = .success ∧
      ∀ kind, (betweenWith collect before after language).listed kind =
        broken language kind ⟨before, collect before language⟩
          ⟨after, collect after language⟩) := by
  by_cases same : before = after
  · subst same
    exact .inl ⟨rfl, by simp [betweenWith]⟩
  · have differs : (before == after) = false := beq_eq_false_iff_ne.mpr same
    by_cases unread : Unread collect language before after
    · have failed := unread
      unfold Unread at failed
      exact .inr (.inl ⟨same, unread, by simp [betweenWith, differs, failed]⟩)
    · have parsed := unread
      unfold Unread at parsed
      refine .inr (.inr ⟨same, unread, by simp [betweenWith, differs, parsed], fun kind => ?_⟩)
      cases kind <;> simp [betweenWith, differs, parsed, listed]

theorem not_attempted_iff :
    betweenWith collect before after language = { status := .notAttempted } ↔ before = after := by
  obtain ⟨same, empty⟩ | ⟨edited, -, empty⟩ | ⟨edited, -, success, -⟩ :=
    between_cases collect language before after
  · exact iff_of_true empty same
  · apply iff_of_false _ edited
    rw [empty]
    decide
  · apply iff_of_false _ edited
    intro empty
    rw [empty] at success
    cases success

theorem failed_iff :
    betweenWith collect before after language = { status := .failed } ↔
      before ≠ after ∧ Unread collect language before after := by
  obtain ⟨same, empty⟩ | ⟨edited, unread, empty⟩ | ⟨edited, read, success, -⟩ :=
    between_cases collect language before after
  · apply iff_of_false _ fun failed => failed.1 same
    rw [empty]
    decide
  · exact iff_of_true empty ⟨edited, unread⟩
  · apply iff_of_false _ fun failed => read failed.2
    intro empty
    rw [empty] at success
    cases success

theorem mem_listed {kind : DeclarationKind} {name : String} :
    name ∈ (betweenWith collect before after language).listed kind ↔
      before ≠ after ∧ ¬Unread collect language before after ∧
        name ∈ (collect before language).declared kind ∧
        (name ∉ (collect after language).declared kind ∨
          Resigned language kind ⟨before, collect before language⟩
            ⟨after, collect after language⟩ name) := by
  obtain ⟨same, empty⟩ | ⟨edited, unread, empty⟩ | ⟨edited, read, -, lists⟩ :=
    between_cases collect language before after
  · rw [empty]
    cases kind <;> simp [listed, same]
  · rw [empty]
    cases kind <;> simp [listed, unread]
  · rw [lists kind, mem_broken]
    simp [edited, read]

theorem unread_comm :
    Unread collect language before after ↔ Unread collect language after before := or_comm

/-- A change set is empty for the reason that its status tells, or it lists what is gone and what is
known with different signatures. `collect` takes the inventories with any parser. -/
theorem reports_gone_and_resigned (before after : List Char) (language : Option Language) :
    let old : Version := ⟨before, collect before language⟩
    let new : Version := ⟨after, collect after language⟩
    let failed := old.inventory.status = .failed ∨ new.inventory.status = .failed
    let changes := betweenWith collect before after language
    let backwards := betweenWith collect after before language
    (changes = { status := .notAttempted } ↔ before = after) ∧
    (changes = { status := .failed } ↔ before ≠ after ∧ failed) ∧
    (before ≠ after → ¬failed → changes.status = .success ∧ ∀ kind,
      (changes.listed kind).Nodup ∧
      (changes.listed kind).Sublist (old.inventory.declared kind).eraseDups ∧
      ∀ name ∈ old.inventory.declared kind,
        (name ∈ changes.listed kind ↔
          name ∉ new.inventory.declared kind ∨ Resigned language kind old new name)) ∧
    (∀ kind, ∀ name ∉ old.inventory.declared kind, name ∉ changes.listed kind) ∧
    (∀ kind, ∀ name ∈ old.inventory.declared kind, name ∈ new.inventory.declared kind →
      (name ∈ changes.listed kind ↔ name ∈ backwards.listed kind)) := by
  intro old new failed changes backwards
  refine ⟨not_attempted_iff collect, failed_iff collect, ?_, ?_, ?_⟩
  · intro edited parsed
    obtain ⟨same, -⟩ | ⟨-, unread, -⟩ | ⟨-, -, success, lists⟩ :=
      between_cases collect language before after
    · exact absurd same edited
    · exact absurd unread parsed
    · refine ⟨success, fun kind => ?_⟩
      rw [lists kind]
      refine ⟨broken_nodup, broken_sublist, fun name there => ?_⟩
      rw [mem_broken]
      exact and_iff_right there
  · intro kind name absent reported
    obtain ⟨-, -, there, -⟩ := (mem_listed collect).mp reported
    exact absent there
  · intro kind name there thereToo
    rw [mem_listed, mem_listed, ne_comm, unread_comm, resigned_comm]
    simp only [old, new] at there thereToo
    simp only [there, thereToo, not_true_eq_false, false_or, true_and]

end Between

/-- `F` takes another parameter and `H` is gone, `G` is declared twice and `K` is new. -/
theorem reports_gone_and_resigned_functions :
    let collect := Inventory.collectWith fun _ => none
    let before :=
      "func F(a int) \x7b\x7d\nfunc G() \x7b\x7d\nfunc G() \x7b\x7d\nfunc H() \x7b\x7d\n".toList
    let after := "func K() \x7b\x7d\nfunc G() \x7b\x7d\nfunc F(a string) \x7b\x7d\n".toList
    let changes := betweenWith collect before after (some .go)
    let backwards := betweenWith collect after before (some .go)
    (collect before (some .go)).declared .function = ["F", "G", "G", "H"] ∧
    (collect after (some .go)).declared .function = ["K", "G", "F"] ∧
    changes.status = .success ∧
    "F" ∈ changes.listed .function ∧ "H" ∈ changes.listed .function ∧
    "G" ∉ changes.listed .function ∧ "K" ∉ changes.listed .function ∧
    "F" ∈ backwards.listed .function := by
  intro collect before after changes backwards
  have old : (collect before (some .go)).declared .function = ["F", "G", "G", "H"] := by
    decide +kernel
  have new : (collect after (some .go)).declared .function = ["K", "G", "F"] := by
    decide +kernel
  obtain ⟨-, -, lists, absent, both⟩ := reports_gone_and_resigned collect before after (some .go)
  have parsed : ¬((collect before (some .go)).status = .failed ∨
      (collect after (some .go)).status = .failed) := by decide +kernel
  obtain ⟨success, each⟩ := lists (by decide) parsed
  obtain ⟨-, -, iff⟩ := each .function
  have resigned : Resigned (some .go) .function ⟨before, collect before (some .go)⟩
      ⟨after, collect after (some .go)⟩ "F" :=
    ⟨"(int)".toList, "(string)".toList, by decide +kernel, by decide +kernel, by decide⟩
  have same : ¬Resigned (some .go) .function ⟨before, collect before (some .go)⟩
      ⟨after, collect after (some .go)⟩ "G" := by
    rintro ⟨first, second, known, knownToo, differ⟩
    have alike : signatureOf (some .go) .function before (collect before (some .go)) "G" =
        signatureOf (some .go) .function after (collect after (some .go)) "G" := by decide +kernel
    exact differ (Option.some.inj (known.symm.trans (alike.trans knownToo)))
  have reported := (iff "F" (by rw [old]; decide)).mpr (.inr resigned)
  refine ⟨old, new, success, reported, ?_, ?_, ?_, ?_⟩
  · exact (iff "H" (by rw [old]; decide)).mpr (.inl (by rw [new]; decide))
  · intro listed
    rcases (iff "G" (by rw [old]; decide)).mp listed with gone | told
    · exact gone (by rw [new]; decide)
    · exact same told
  · exact absent .function "K" (by rw [old]; decide)
  · exact (both .function "F" (by rw [old]; decide) (by rw [new]; decide)).mp reported

end ChangeSet

end EditImpact
