import EditImpact.Proofs.ChangeSet.Difference
import EditImpact.Scoring.Rules.Contracts

/-!
# Breaking tags are backed by the change set

The rule on contracts finds exported names by patterns on changed lines and compares the signatures
of each in the old and the new text, as a function or else as a class. The change set asks the
inventories what the old text declares. Where such a declaration is of the kind that the rule
compared, the change set lists the name as well (`breaking_tags_are_backed`).
-/

namespace EditImpact.Scoring.Contracts

open ChangeSet

set_option autoImplicit false

section Signatures

variable {language : Option Language} {name prior current : List Char}

/-- A function of the old text only counts as changed if the new text has it too. -/
theorem function_changed (changed : signatureChanged language name prior current = true)
    (found : Signature.ofFunction language name prior ≠ none) :
    ∃ old new, Signature.ofFunction language name prior = some old ∧
      Signature.ofFunction language name current = some new ∧ old ≠ new := by
  unfold signatureChanged at changed
  cases before : Signature.ofFunction language name prior with
  | none => exact absurd before found
  | some old =>
      cases after : Signature.ofFunction language name current with
      | none => simp [before, after] at changed
      | some new => exact ⟨old, new, rfl, rfl, by simpa [before, after] using changed⟩

/-- What is a function in neither text is compared as a class. -/
theorem class_changed (changed : signatureChanged language name prior current = true)
    (missing : Signature.ofFunction language name prior = none)
    (missingToo : Signature.ofFunction language name current = none) :
    ∃ old new, Signature.ofClass language name prior = some old ∧
      Signature.ofClass language name current = some new ∧ old ≠ new := by
  simp only [signatureChanged, missing, missingToo] at changed
  cases before : Signature.ofClass language name prior with
  | none => simp [before] at changed
  | some old =>
      cases after : Signature.ofClass language name current with
      | none => simp [before, after] at changed
      | some new => exact ⟨old, new, rfl, rfl, by simpa [before, after] using changed⟩

end Signatures

/-- The tag names a declaration whose signature the rule found changed. -/
theorem changed_of_tag {context : Context} {prior : List Char} {name : String}
    (compared : context.prior = some prior)
    (tagged : "breaking=" ++ name ∈ (breakingApi.check context).tags) :
    signatureChanged context.language name.toList prior context.current = true := by
  simp only [breakingApi, compared] at tagged
  split at tagged
  · cases tagged
  · next exported line found =>
      have same : name = String.ofList exported :=
        String.append_right_inj _ |>.mp (List.mem_singleton.mp tagged)
      rw [same, String.toList_ofList]
      have flagged := List.find?_some found
      exact flagged

section Backing

variable (collect : List Char → Option Language → Inventory) {context : Context}
  {prior : List Char} {name : String}

/-- A tag for a function of the old text's inventory, or for a class of it that is a function in
neither text, stands for a declaration that the change set lists. `collect` takes the inventories
with any parser. -/
theorem breaking_tags_are_backed (compared : context.prior = some prior)
    (edited : prior ≠ context.current)
    (read : (collect prior context.language).status = .success)
    (readToo : (collect context.current context.language).status = .success)
    (tagged : "breaking=" ++ name ∈ (breakingApi.check context).tags) :
    let old := collect prior context.language
    let changes := betweenWith collect prior context.current context.language
    (Signature.ofFunction context.language name.toList prior ≠ none →
      name ∈ old.declared .function → name ∈ changes.functions) ∧
    (Signature.ofFunction context.language name.toList prior = none →
      Signature.ofFunction context.language name.toList context.current = none →
      name ∈ old.declared .class → name ∈ changes.classes) := by
  intro old changes
  have changed := changed_of_tag compared tagged
  have parsed : ¬Unread collect context.language prior context.current := by
    simp [Unread, read, readToo]
  have listed (kind : DeclarationKind) (declared : name ∈ old.declared kind)
      (resigned : Resigned context.language kind ⟨prior, old⟩
        ⟨context.current, collect context.current context.language⟩ name) :
      name ∈ changes.listed kind :=
    (mem_listed collect).mpr ⟨edited, parsed, declared, .inr resigned⟩
  constructor
  · intro found declared
    obtain ⟨before, after, known, knownToo, differ⟩ := function_changed changed found
    apply listed .function declared
    exact ⟨before, after, by simp [signatureOf, known], by simp [signatureOf, knownToo], differ⟩
  · intro missing missingToo declared
    obtain ⟨before, after, known, knownToo, differ⟩ := class_changed changed missing missingToo
    apply listed .class declared
    exact ⟨before, after, by simp [signatureOf, known], by simp [signatureOf, knownToo], differ⟩

end Backing

/-- An exported function with a parameter of the type. -/
def totalOf (type : String) : List Char :=
  ("func Total(a " ++ type ++ ") \x7b\x7d\n").toList

/-- A public class below another one. -/
def cartBelow (parent : String) : List Char :=
  ("public class Cart extends " ++ parent ++ " \x7b\x7d\n").toList

def firstLineEdit (language : Language) (prior current : List Char) : Context where
  path := "src/shop"
  current := current
  delta := { modified := [1] }
  prior := some prior
  language := some language

theorem resigned_exports_are_backed :
    let collect := Inventory.collectWith fun _ => none
    "breaking=Total" ∈ (breakingApi.check
      (firstLineEdit .go (totalOf "int") (totalOf "string"))).tags ∧
    "Total" ∈ (betweenWith collect (totalOf "int") (totalOf "string") (some .go)).functions ∧
    "breaking=Cart" ∈ (breakingApi.check
      (firstLineEdit .java (cartBelow "List") (cartBelow "Bag"))).tags ∧
    "Cart" ∈ (betweenWith collect (cartBelow "List") (cartBelow "Bag") (some .java)).classes := by
  intro collect
  have totalTag : "breaking=Total" ∈ (breakingApi.check
      (firstLineEdit .go (totalOf "int") (totalOf "string"))).tags := by decide +kernel
  have cartTag : "breaking=Cart" ∈ (breakingApi.check
      (firstLineEdit .java (cartBelow "List") (cartBelow "Bag"))).tags := by decide +kernel
  obtain ⟨functions, -⟩ := @breaking_tags_are_backed collect
    (firstLineEdit .go (totalOf "int") (totalOf "string")) _ "Total" rfl (by decide)
    (by decide +kernel) (by decide +kernel) totalTag
  obtain ⟨-, classes⟩ := @breaking_tags_are_backed collect
    (firstLineEdit .java (cartBelow "List") (cartBelow "Bag")) _ "Cart" rfl (by decide)
    (by decide +kernel) (by decide +kernel) cartTag
  refine ⟨totalTag, ?_, cartTag, ?_⟩
  · exact functions (by decide +kernel) (by decide +kernel)
  · exact classes (by decide +kernel) (by decide +kernel) (by decide +kernel)

end EditImpact.Scoring.Contracts
