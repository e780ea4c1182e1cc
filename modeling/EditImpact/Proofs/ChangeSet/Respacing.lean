import EditImpact.ChangeSet
import EditImpact.Inventory.Collect
import EditImpact.Proofs.Signature.GapClasses

/-!
# Respacing breaks nothing

An edit that, comments aside, only widens and narrows gaps is cosmetic, and the signatures that are
found in the text stay (`seen_respaced`). What such an edit can break are declarations that no header
finds and for which the two inventories know different signatures; where declarations are read line
by line there are none. How inventories are taken is left open.
-/

namespace EditImpact

open Source Signature

set_option autoImplicit false

/-- Texts that differ by blanks, each added to a gap or taken from one. -/
inductive Respaced : List Char → List Char → Prop where
  | same (text : List Char) : Respaced text text
  | wider {text : List Char} (gap : Gap) (narrow : Respaced text gap.narrow) :
      Respaced text gap.wide
  | narrower {text : List Char} (gap : Gap) (wide : Respaced text gap.wide) :
      Respaced text gap.narrow

/-- What no gap shows is the same for respaced texts. -/
theorem Respaced.congr {Result : Type} {read : List Char → Result}
    (gaps : ∀ gap : Gap, read gap.narrow = read gap.wide) {text other : List Char}
    (respaced : Respaced text other) : read text = read other := by
  induction respaced with
  | same => rfl
  | wider gap _ induction => exact induction.trans (gaps gap)
  | narrower gap _ induction => exact induction.trans (gaps gap).symm

/-- Any blanks may be added at the end of a line, so also empty lines. -/
theorem Respaced.at_line_end {text before after : List Char}
    (narrow : Respaced text (before ++ '\n' :: after)) (blanks : List Char)
    (listed : ∀ c ∈ blanks, c ∈ gapBlanks) (free : ∀ c ∈ blanks.take 1, Free before c '\n') :
    Respaced text (before ++ blanks ++ '\n' :: after) := by
  induction blanks generalizing before with
  | nil => rwa [List.append_nil]
  | cons c blanks induction =>
      have here := listed c List.mem_cons_self
      have wider : Respaced text (before ++ [c] ++ '\n' :: after) := by
        rw [List.append_assoc]
        exact .wider ⟨before, c, '\n', after, .inl ⟨rfl, here⟩, free c List.mem_cons_self⟩ narrow
      have rest := induction wider (fun d member => listed d (List.mem_cons_of_mem c member))
        fun d _ => .behind_blank here before d '\n'
      rw [List.append_assoc, List.append_assoc, List.singleton_append] at rest
      rwa [List.append_assoc, List.cons_append]

/-- Respaced texts differ in nothing but blanks. -/
theorem cosmetic_respaced {language : Option Language} {before after : List Char}
    (respaced : Respaced (stripComments language before) (stripComments language after)) :
    isCosmetic before after language = true := by
  have same := respaced.congr fun gap => (Alike.wider gap).collapse
  rw [isCosmetic, same, beq_self_eq_true, Bool.or_true]

namespace ChangeSet

/-- The signature that is found in the text by a header. -/
def seen (language : Option Language) (kind : DeclarationKind) (text : List Char) (name : String) :
    Option (List Char) :=
  match kind with
  | .function => ofFunction language name.toList text
  | .class => ofClass language name.toList text

/-- The signature that an inventory knows. -/
def recorded (inventory : Inventory) (kind : DeclarationKind) (name : String) :
    Option (List Char) :=
  (inventory.first? name kind).bind fun declaration =>
    if declaration.signature.isEmpty then none else some declaration.signature

theorem signature_of_eq (language : Option Language) (kind : DeclarationKind) (text : List Char)
    (inventory : Inventory) (name : String) :
    signatureOf language kind text inventory name =
      (seen language kind text name).or (recorded inventory kind name) := by
  unfold signatureOf recorded
  cases kind with
  | function =>
      simp only [seen]
      cases ofFunction language name.toList text with
      | some signature => rfl
      | none => cases inventory.first? name .function <;> rfl
  | «class» =>
      simp only [seen]
      cases ofClass language name.toList text with
      | some signature => rfl
      | none => cases inventory.first? name .class <;> rfl

/-- What headers find does not change with the blanks in gaps. -/
theorem seen_respaced {language : Option Language} {before after : List Char}
    (respaced : Respaced (stripComments language before) (stripComments language after))
    (kind : DeclarationKind) {name : String} (word : OneWord name.toList) :
    seen language kind before name = seen language kind after name := by
  cases kind with
  | function =>
      simp only [seen, of_function_eq]
      exact respaced.congr fun gap => function_in_alike word (.wider gap)
  | «class» =>
      simp only [seen, of_class_eq]
      exact respaced.congr fun gap => class_in_alike word (.wider gap)

/-- The inventories know different signatures. -/
def Contradicts (old new : Inventory) (kind : DeclarationKind) (name : String) : Prop :=
  ∃ before after, recorded old kind name = some before ∧ recorded new kind name = some after ∧
    before ≠ after

/-- A declaration of both versions breaks iff no header finds it and its known signatures differ, if
the headers find the same in both. -/
theorem breaks_iff {language : Option Language} {kind : DeclarationKind} {old new : Version}
    {name : String} (kept : name ∈ new.inventory.names kind)
    (same : seen language kind old.text name = seen language kind new.text name) :
    breaks language kind old new name = true ↔
      seen language kind old.text name = none ∧
        Contradicts old.inventory new.inventory kind name := by
  have listed : (new.inventory.names kind).contains name = true := List.contains_iff_mem.mpr kept
  unfold breaks Contradicts
  rw [if_pos listed, signature_of_eq, signature_of_eq, ← same]
  cases seen language kind old.text name with
  | some signature => simp
  | none =>
      simp only [Option.none_or, true_and]
      cases recorded old.inventory kind name with
      | none => simp
      | some before =>
          cases recorded new.inventory kind name with
          | none => simp
          | some after => simp

/-- A declaration of which headers find different signatures is broken, whatever inventories know. -/
theorem breaks_of_seen {language : Option Language} {kind : DeclarationKind} {old new : Version}
    {name : String} {first second : List Char} (kept : name ∈ new.inventory.names kind)
    (found : seen language kind old.text name = some first)
    (foundToo : seen language kind new.text name = some second) (differ : first ≠ second) :
    breaks language kind old new name = true := by
  unfold breaks
  rw [if_pos (List.contains_iff_mem.mpr kept), signature_of_eq, signature_of_eq, found, foundToo]
  exact bne_iff_ne.mpr differ

section Lines

/-- Declarations of texts in a language are read line by line. -/
def ByLines (collect : List Char → Option Language → Inventory) (language : Option Language) :
    Prop :=
  ∀ text, (collect text language).declarations = Inventory.lineDeclarations language text

theorem collect_by_lines {parser? : Language.Grammar → Option Inventory.Parser}
    {language : Option Language} (lines : Inventory.parserOf parser? language = none) :
    ByLines (Inventory.collectWith parser?) language := by
  intro text
  rw [Inventory.collectWith, lines]

/-- A declaration read from a line carries what headers find, or stands for nothing. -/
theorem declared_on_line_signature {language : Option Language} {text line : List Char}
    {number : Nat} {declaration : Declaration}
    (declared : Inventory.declaredOnLine language text number line = some declaration) :
    declaration.signature =
      (seen language declaration.kind text declaration.name).getD
        (if declaration.kind = .class then "class".toList else []) := by
  unfold Inventory.declaredOnLine at declared
  split at declared
  · cases declared
    simp [seen]
  · obtain ⟨name, -, rfl⟩ := Option.map_eq_some_iff.mp declared
    simp [seen]

/-- All that an inventory from lines knows of a declaration that no header finds is that it is a
class. -/
theorem recorded_by_lines {collect : List Char → Option Language → Inventory}
    {language : Option Language} (lines : ByLines collect language)
    {text : List Char} {kind : DeclarationKind} {name : String}
    (unseen : seen language kind text name = none) {signature : List Char}
    (known : recorded (collect text language) kind name = some signature) :
    signature = "class".toList := by
  obtain ⟨declaration, first, shown⟩ := Option.bind_eq_some_iff.mp known
  simp only [Option.ite_none_left_eq_some, Option.some.injEq] at shown
  obtain ⟨filled, rfl⟩ := shown
  have about := List.find?_some first
  have listed := List.mem_of_find?_eq_some first
  simp only [Bool.and_eq_true, beq_iff_eq] at about
  obtain ⟨rfl, rfl⟩ := about
  rw [lines text] at listed
  obtain ⟨⟨line, number⟩, -, declared⟩ := List.mem_filterMap.mp listed
  have told := declared_on_line_signature declared
  rw [unseen, Option.getD_none] at told
  cases kind : declaration.kind with
  | function =>
      rw [kind, if_neg (by decide)] at told
      rw [told] at filled
      exact absurd rfl filled
  | «class» =>
      rw [kind, if_pos rfl] at told
      exact told

end Lines

section Edits

variable {collect : List Char → Option Language → Inventory} {language : Option Language}
  {before after : List Char}

/-- Nothing breaks iff no listed declaration does. -/
theorem is_empty_iff (parsed : (collect before language).status = .success)
    (parsedToo : (collect after language).status = .success) (edited : before ≠ after) :
    (betweenWith collect before after language).isEmpty = true ↔
      ∀ kind, ∀ name ∈ (collect before language).names kind,
        breaks language kind ⟨before, collect before language⟩ ⟨after, collect after language⟩
          name = false := by
  have differs : (before == after) = false := beq_eq_false_iff_ne.mpr edited
  have both : (betweenWith collect before after language).isEmpty = true ↔ ∀ kind,
      broken language kind ⟨before, collect before language⟩ ⟨after, collect after language⟩ =
        [] := by
    simp only [betweenWith, differs, parsed, parsedToo, isEmpty, Bool.and_eq_true,
      List.isEmpty_iff]
    constructor
    · rintro ⟨functions, classes⟩ kind
      cases kind with
      | function => exact functions
      | «class» => exact classes
    · exact fun all => ⟨all .function, all .class⟩
  rw [both]
  simp only [broken, List.filter_eq_nil_iff, Bool.not_eq_true]

/-- Respacing breaks nothing that headers find. Of the rest it breaks what the inventories
contradict each other about, which they do not where declarations are read line by line. -/
theorem respacing_breaks_only_unseen
    (respaced : Respaced (stripComments language before) (stripComments language after))
    (parsed : (collect before language).status = .success)
    (parsedToo : (collect after language).status = .success)
    (names : ∀ kind, (collect before language).names kind = (collect after language).names kind)
    (words : ∀ kind, ∀ name ∈ (collect before language).names kind, OneWord name.toList) :
    isCosmetic before after language = true ∧
      ((betweenWith collect before after language).isEmpty = true ↔
        ∀ kind, ∀ name ∈ (collect before language).names kind,
          seen language kind before name = none →
            ¬Contradicts (collect before language) (collect after language) kind name) ∧
      (ByLines collect language →
        (betweenWith collect before after language).isEmpty = true) := by
  have same {kind : DeclarationKind} {name : String}
      (listed : name ∈ (collect before language).names kind) :=
    seen_respaced respaced kind (words kind name listed)
  have exact : (betweenWith collect before after language).isEmpty = true ↔
      ∀ kind, ∀ name ∈ (collect before language).names kind,
        seen language kind before name = none →
          ¬Contradicts (collect before language) (collect after language) kind name := by
    by_cases edited : before = after
    · subst edited
      have empty : (betweenWith collect before before language).isEmpty = true := by
        simp [betweenWith, isEmpty]
      refine ⟨fun _ kind name _ _ contradicts => ?_, fun _ => empty⟩
      obtain ⟨old, new, known, knownToo, differ⟩ := contradicts
      exact differ (Option.some.inj (known.symm.trans knownToo))
    · rw [is_empty_iff parsed parsedToo edited]
      refine forall_congr' fun kind => forall_congr' fun name => forall_congr' fun listed => ?_
      have kept : name ∈ (collect after language).names kind := names kind ▸ listed
      have broken : breaks language kind ⟨before, collect before language⟩
            ⟨after, collect after language⟩ name = true ↔
          seen language kind before name = none ∧
            Contradicts (collect before language) (collect after language) kind name :=
        breaks_iff kept (same listed)
      rw [← Bool.not_eq_true, broken, not_and]
  refine ⟨cosmetic_respaced respaced, exact, fun lines => exact.mpr ?_⟩
  rintro kind name listed unseen ⟨old, new, known, knownToo, differ⟩
  have unseenToo := (same listed).symm.trans unseen
  exact differ ((recorded_by_lines lines unseen known).trans
    (recorded_by_lines lines unseenToo knownToo).symm)

end Edits

/-- A comment on a line of its own and another at the end of a line. -/
theorem commented_function_breaks_nothing :
    let collect := Inventory.collectWith fun _ => none
    let before := "func F(a int) int \x7b\n\treturn a\n\x7d\n".toList
    let after := "func F(a int) int \x7b\n\t// as it is\n\treturn a // the same\n\x7d\n".toList
    isCosmetic before after (some .go) = true ∧
      (collect before (some .go)).names .function = ["F"] ∧
      (betweenWith collect before after (some .go)).isEmpty = true := by
  intro collect before after
  have old : collect before (some .go) =
      ⟨[⟨"F", .function, 1, "(int):int".toList, []⟩], .success, some .go, .lines, none⟩ := by
    decide +kernel
  have new : collect after (some .go) =
      ⟨[⟨"F", .function, 1, "(int):int".toList, []⟩], .success, some .go, .lines, none⟩ := by
    decide +kernel
  have plain : Respaced (stripComments (some .go) before)
      ("func F(a int) int \x7b".toList ++ '\n' :: "\treturn a\n\x7d\n".toList) := .same _
  have ownLine : Respaced (stripComments (some .go) before)
      ("func F(a int) int \x7b\n\t           \n\treturn a".toList ++ '\n' :: "\x7d\n".toList) :=
    plain.at_line_end "\n\t           ".toList (by decide) (by decide)
  have lineEnd : Respaced (stripComments (some .go) before) (stripComments (some .go) after) :=
    ownLine.at_line_end "            ".toList (by decide) (by decide)
  obtain ⟨cosmetic, -, lines⟩ := @respacing_breaks_only_unseen collect (some .go) before after
    lineEnd (by rw [old]) (by rw [new]) (fun kind => by rw [old, new]) fun kind => by
      rw [old]
      cases kind <;> decide
  refine ⟨cosmetic, ?_, lines (collect_by_lines rfl)⟩
  rw [old]
  decide

/-- A return type on a line of its own is an edit of blanks alone. It breaks the function, whatever
else the inventories know of it. -/
theorem wrapped_return_type_breaks :
    let before := "function f(a: number): string \x7b \x7d\n".toList
    let after := "function f(a: number):\n  string \x7b \x7d\n".toList
    isCosmetic before after (some .typescript) = true ∧
      (∀ collect : List Char → Option Language → Inventory,
        (∀ text ∈ [before, after], (collect text (some .typescript)).status = .success ∧
          (collect text (some .typescript)).names .function = ["f"] ∧
          (collect text (some .typescript)).names .class = []) →
        betweenWith collect before after (some .typescript) = ⟨["f"], [], .success⟩) ∧
      betweenWith (Inventory.collectWith fun _ => none) before after (some .typescript) =
        ⟨["f"], [], .success⟩ := by
  intro before after
  refine ⟨by decide +kernel, ?_, by decide +kernel⟩
  intro collect taken
  obtain ⟨parsed, functions, classes⟩ := taken before (by simp)
  obtain ⟨parsedToo, functionsToo, -⟩ := taken after (by simp)
  have differs : (before == after) = false := by decide
  have old : seen (some .typescript) .function before "f" = some "(number):string".toList := by
    decide +kernel
  have new : seen (some .typescript) .function after "f" = some "(number)".toList := by
    decide +kernel
  have resigned : breaks (some .typescript) .function ⟨before, collect before (some .typescript)⟩
      ⟨after, collect after (some .typescript)⟩ "f" = true :=
    breaks_of_seen (by rw [functionsToo]; exact List.mem_singleton_self _) old new (by decide)
  simp only [betweenWith, differs, parsed, parsedToo, broken, functions, classes,
    List.filter_cons, resigned, List.filter_nil]
  rfl

end ChangeSet

end EditImpact
