import EditImpact.Inventory.Trees

/-!
Which nodes of a Python tree are declarations. A node counts by what it is and by the nearest
function or class around it: methods are left out, and functions inside methods are not. The
declarations stand in the order of the text.
-/

namespace EditImpact.Inventory

open Parsing

set_option autoImplicit false

/-- A node of a tree with the kinds of the nodes around it, the nearest one first. -/
structure Place where
  node : Tree
  around : List Kind

namespace Place

/-- The nearest function or class around a node. -/
def scope (place : Place) : Option Kind :=
  place.around.find? fun kind => kind == .function || kind == .classDefinition

/-- The class that a node defines, or the function that it defines and that is no method. Only
named nodes declare something. -/
def declaration? (source : List Char) (place : Place) : Option Declaration :=
  match place.node.child? .name with
  | none => none
  | some name =>
    if place.node.kind = .classDefinition then
      some (classFrom (some .python) source name place.node)
    else if place.node.kind = .function ∧ place.scope ≠ some .classDefinition then
      some (functionFrom (some .python) source name place.node place.node.span.line)
    else none

end Place

mutual

/-- The nodes of a tree, each one before its children. -/
def placesIn (around : List Kind) : Tree → List Place
  | .node kind field span children =>
    ⟨.node kind field span children, around⟩ :: placesInAll (kind :: around) children

def placesInAll (around : List Kind) : List Tree → List Place
  | [] => []
  | tree :: trees => placesIn around tree ++ placesInAll around trees

end

/-! ### Scopes -/

/-- The flag that goes down the tree says whether the nearest scope is a class. -/
def FlagFor (around : List Kind) (inClass : Bool) : Prop :=
  ∀ node, inClass = ((⟨node, around⟩ : Place).scope == some .classDefinition)

theorem flag_below {around : List Kind} {inClass : Bool} (flag : FlagFor around inClass)
    (kind : Kind) : FlagFor (kind :: around) (inClassBelow inClass kind) := by
  intro node
  cases kind with
  | function => rfl
  | classDefinition => rfl
  | arrow => exact flag node
  | binding => exact flag node
  | plain => exact flag node

theorem declared_in_place {around : List Kind} {inClass : Bool} (flag : FlagFor around inClass)
    (source : List Char) (tree : Tree) :
    declaredInPython source inClass tree = (⟨tree, around⟩ : Place).declaration? source := by
  have flagged := flag tree
  cases kind : tree.kind with
  | function =>
      cases named : tree.child? .name with
      | none => simp [declaredInPython, Place.declaration?, kind, named]
      | some name =>
          cases inClass with
          | true =>
              have method : (⟨tree, around⟩ : Place).scope = some .classDefinition := by
                simpa using flagged.symm
              simp [declaredInPython, Place.declaration?, kind, named, method]
          | false =>
              have free : (⟨tree, around⟩ : Place).scope ≠ some .classDefinition := by
                simpa using flagged.symm
              simp [declaredInPython, Place.declaration?, kind, named, free]
  | classDefinition =>
      cases named : tree.child? .name <;>
        simp [declaredInPython, Place.declaration?, kind, named]
  | arrow | binding | plain =>
      cases named : tree.child? .name <;>
        simp [declaredInPython, Place.declaration?, kind, named]

mutual

theorem python_tree_places (source : List Char) (tree : Tree) {around : List Kind}
    {inClass : Bool} (flag : FlagFor around inClass) :
    pythonTree source inClass tree =
      (placesIn around tree).filterMap (Place.declaration? source) := by
  cases tree with
  | node kind field span children =>
      rw [pythonTree, placesIn, List.filterMap_cons, declared_in_place flag,
        python_trees_places source children (flag_below flag kind)]
      cases (⟨.node kind field span children, around⟩ : Place).declaration? source <;> rfl

theorem python_trees_places (source : List Char) (trees : List Tree) {around : List Kind}
    {inClass : Bool} (flag : FlagFor around inClass) :
    pythonTrees source inClass trees =
      (placesInAll around trees).filterMap (Place.declaration? source) := by
  cases trees with
  | nil => rfl
  | cons tree trees =>
      rw [pythonTrees, placesInAll, List.filterMap_append, python_tree_places source tree flag,
        python_trees_places source trees flag]

end

/-! ### Order -/

/-- The line of an offset, counted from one. -/
def lineAt (source : List Char) (offset : Nat) : Nat := 1 + (source.take offset).count '\n'

/-- A node covers its children, which stand one after the other, and its line is where it
starts. -/
structure Nested (source : List Char) (node : Tree) : Prop where
  forwards : node.span.start ≤ node.span.stop
  line_eq : node.span.line = lineAt source node.span.start
  inside : ∀ child ∈ node.children,
    node.span.start ≤ child.span.start ∧ child.span.stop ≤ node.span.stop
  apart : node.children.Pairwise fun left right => left.span.stop ≤ right.span.start

instance (source : List Char) (node : Tree) : Decidable (Nested source node) :=
  decidable_of_iff
    (node.span.start ≤ node.span.stop ∧ node.span.line = lineAt source node.span.start ∧
      (∀ child ∈ node.children,
        node.span.start ≤ child.span.start ∧ child.span.stop ≤ node.span.stop) ∧
      node.children.Pairwise fun left right => left.span.stop ≤ right.span.start)
    ⟨fun ⟨forwards, line, inside, apart⟩ => ⟨forwards, line, inside, apart⟩,
      fun nested => ⟨nested.forwards, nested.line_eq, nested.inside, nested.apart⟩⟩

theorem line_at_mono (source : List Char) {early late : Nat} (before : early ≤ late) :
    lineAt source early ≤ lineAt source late :=
  Nat.add_le_add_left ((List.take_sublist_take_left before).count_le '\n') 1

/-- No place lies outside the tree that it is in. -/
def StartsWithin (tree : Tree) (place : Place) : Prop :=
  tree.span.start ≤ place.node.span.start ∧ place.node.span.start ≤ tree.span.stop

mutual

theorem starts_within {source : List Char} {around : List Kind} (tree : Tree)
    (nested : ∀ place ∈ placesIn around tree, Nested source place.node) :
    ∀ place ∈ placesIn around tree, StartsWithin tree place := by
  cases tree with
  | node kind field span children =>
      intro place member
      have here := nested _ (by rw [placesIn]; exact List.mem_cons_self)
      rw [placesIn] at member nested
      rcases List.mem_cons.mp member with rfl | below
      · exact ⟨Nat.le_refl _, here.forwards⟩
      · obtain ⟨child, isChild, starts, ends⟩ := starts_within_all children
          (fun place below => nested place (List.mem_cons_of_mem _ below)) place below
        obtain ⟨first, last⟩ := here.inside child isChild
        exact ⟨Nat.le_trans first starts, Nat.le_trans ends last⟩

theorem starts_within_all {source : List Char} {around : List Kind} (trees : List Tree)
    (nested : ∀ place ∈ placesInAll around trees, Nested source place.node) :
    ∀ place ∈ placesInAll around trees, ∃ tree ∈ trees, StartsWithin tree place := by
  cases trees with
  | nil => exact fun place member => nomatch member
  | cons tree trees =>
      intro place member
      rw [placesInAll] at member nested
      rcases List.mem_append.mp member with first | later
      · exact ⟨tree, List.mem_cons_self, starts_within tree
          (fun place first => nested place (List.mem_append_left _ first)) place first⟩
      · obtain ⟨other, isOther, within⟩ := starts_within_all trees
          (fun place later => nested place (List.mem_append_right _ later)) place later
        exact ⟨other, List.mem_cons_of_mem tree isOther, within⟩

end

mutual

theorem places_in_order {source : List Char} {around : List Kind} (tree : Tree)
    (nested : ∀ place ∈ placesIn around tree, Nested source place.node) :
    (placesIn around tree).Pairwise fun early late =>
      early.node.span.start ≤ late.node.span.start := by
  cases tree with
  | node kind field span children =>
      have within := starts_within _ nested
      have here := nested _ (by rw [placesIn]; exact List.mem_cons_self)
      rw [placesIn] at nested within ⊢
      refine List.pairwise_cons.mpr ⟨?_, places_in_order_all children here.apart
        fun place below => nested place (List.mem_cons_of_mem _ below)⟩
      intro place below
      exact (within place (List.mem_cons_of_mem _ below)).1

theorem places_in_order_all {source : List Char} {around : List Kind} (trees : List Tree)
    (apart : trees.Pairwise fun left right => left.span.stop ≤ right.span.start)
    (nested : ∀ place ∈ placesInAll around trees, Nested source place.node) :
    (placesInAll around trees).Pairwise fun early late =>
      early.node.span.start ≤ late.node.span.start := by
  cases trees with
  | nil => exact List.Pairwise.nil
  | cons tree trees =>
      obtain ⟨before, apart⟩ := List.pairwise_cons.mp apart
      rw [placesInAll] at nested ⊢
      have first := fun place member => nested place (List.mem_append_left _ member)
      have later := fun place member => nested place (List.mem_append_right _ member)
      refine List.pairwise_append.mpr ⟨places_in_order tree first,
        places_in_order_all trees apart later, ?_⟩
      intro early inTree late inTrees
      obtain ⟨other, isOther, starts, -⟩ := starts_within_all trees later late inTrees
      calc early.node.span.start ≤ tree.span.stop := (starts_within tree first early inTree).2
        _ ≤ other.span.start := before other isOther
        _ ≤ late.node.span.start := starts

end

theorem Place.declaration_line {source : List Char} {place : Place} {declaration : Declaration}
    (declared : place.declaration? source = some declaration) :
    declaration.line = place.node.span.line := by
  unfold Place.declaration? at declared
  split at declared
  · cases declared
  · split at declared
    · cases declared
      rfl
    · split at declared
      · cases declared
        rfl
      · cases declared

/-- The declarations of a Python tree are its named classes and those of its named functions that
no class is the nearest scope of, in the order of the tree and with lines that never go back. -/
theorem python_declarations_scoped (source : List Char) (tree : Tree)
    (nested : ∀ place ∈ placesIn [] tree, Nested source place.node) :
    pythonTree source false tree = (placesIn [] tree).filterMap (Place.declaration? source) ∧
      (pythonTree source false tree).Pairwise fun early late => early.line ≤ late.line := by
  have flag : FlagFor [] false := fun _ => rfl
  have listed := python_tree_places source tree flag
  refine ⟨listed, ?_⟩
  have lines : (placesIn [] tree).Pairwise fun early late =>
      early.node.span.line ≤ late.node.span.line := by
    refine (places_in_order tree nested).imp_of_mem ?_
    intro early late first second before
    rw [(nested early first).line_eq, (nested late second).line_eq]
    exact line_at_mono source before
  rw [listed]
  refine lines.filterMap _ ?_
  intro early late before first isFirst second isSecond
  rw [Place.declaration_line isFirst, Place.declaration_line isSecond]
  exact before

/-- A class with a method under a condition, and a decorated function in the method. -/
def storeSource : List Char :=
  "class Repo:\n  if ready:\n    def read(self):\n      @cached\n      def key(x): pass\n".toList

def storeTree : Tree :=
  let key : Tree := .node .function none ⟨64, 80, 5⟩
    [.node .plain (some .name) ⟨68, 71, 5⟩ [], .node .plain (some .params) ⟨71, 74, 5⟩ []]
  let read : Tree := .node .function none ⟨28, 80, 3⟩
    [.node .plain (some .name) ⟨32, 36, 3⟩ [], .node .plain (some .params) ⟨36, 42, 3⟩ [],
      .node .plain none ⟨50, 80, 4⟩ [key]]
  .node .plain none ⟨0, 81, 1⟩
    [.node .classDefinition none ⟨0, 80, 1⟩
      [.node .plain (some .name) ⟨6, 10, 1⟩ [], .node .plain none ⟨14, 80, 2⟩ [read]]]

/-- The method is left out, the class and the function in the method are listed. -/
theorem function_in_method_listed :
    (∀ place ∈ placesIn [] storeTree, Nested storeSource place.node) ∧
      (pythonTree storeSource false storeTree).map
          (fun found => (found.name, found.kind, found.line)) =
        [("Repo", .class, 1), ("key", .function, 5)] ∧
      pythonTree storeSource false storeTree =
        (placesIn [] storeTree).filterMap (Place.declaration? storeSource) ∧
      (pythonTree storeSource false storeTree).Pairwise fun early late =>
        early.line ≤ late.line := by
  have nested : ∀ place ∈ placesIn [] storeTree, Nested storeSource place.node := by decide
  exact ⟨nested, by decide, python_declarations_scoped storeSource storeTree nested⟩

end EditImpact.Inventory
