import EditImpact.Files.Walk
import Mathlib.Data.List.Nodup
import Mathlib.Data.List.Basic

/-!
# Walks through a tree

A directory whose entries have different names, with files and folders in it and no links, is a
tree. A walk from such a directory meets its files in the order of `Tree.walkOrder`
(`Tree.met_tree`). These are the files that lie below the directory through names that are not
excluded (`Tree.mem_walk_order_iff`), each of them once.
-/

namespace EditImpact

set_option autoImplicit false

namespace Path

/-- The place that names lead to from a directory. -/
def under (directory : Path) (names : List String) : Path :=
  { directory with segments := directory.segments ++ names }

@[simp] theorem under_nil (directory : Path) : directory.under [] = directory := by
  simp [under]

theorem under_child (directory : Path) (name : String) (names : List String) :
    (directory.child name).under names = directory.under (name :: names) := by
  simp [under, child]

theorem under_injective (directory : Path) : Function.Injective directory.under := by
  intro first second same
  exact List.append_cancel_left (congrArg Path.segments same)

end Path

namespace Files

/-- The directories that a walk enters: its root, and folders in them unless their names are
excluded. -/
inductive Reaches (files : FileSystem) (extra : List String) (root : Path) : Path → Prop where
  | root : Reaches files extra root root
  | folder {directory : Path} {entry : Entry} (above : Reaches files extra root directory)
      (listed : entry ∈ files.entries directory) (isFolder : entry.isDirectory = true)
      (kept : isExcluded entry.name extra = false) : Reaches files extra root entry.path

/-- A file lies in a directory or below it, through names that are not excluded. -/
def LiesBelow (files : FileSystem) (extra : List String) (root path : Path) : Prop :=
  ∃ directory, Reaches files extra root directory ∧
    ∃ entry ∈ files.entries directory, entry.isDirectory = false ∧ entry.path = path

/-- The entries of a directory, one after the other, with what lies in its folders. -/
inductive Tree where
  | empty
  | file (name : String) (rest : Tree)
  | folder (name : String) (inside rest : Tree)
  deriving DecidableEq, Repr

namespace Tree

/-- The names right in the directory. -/
def names : Tree → List String
  | empty => []
  | file name rest => name :: rest.names
  | folder name _ rest => name :: rest.names

/-- No two entries of one directory have the same name. -/
def Distinct : Tree → Prop
  | empty => True
  | file name rest => name ∉ rest.names ∧ rest.Distinct
  | folder name inside rest => name ∉ rest.names ∧ inside.Distinct ∧ rest.Distinct

def entries (directory : Path) : Tree → List Entry
  | empty => []
  | file name rest => ⟨name, directory.child name, false⟩ :: rest.entries directory
  | folder name _ rest => ⟨name, directory.child name, true⟩ :: rest.entries directory

/-- The folders of the tree list what lies in them, and its files are no links. -/
def Shown (files : FileSystem) : Path → Tree → Prop
  | _, empty => True
  | directory, file name rest =>
    files.resolve (directory.child name) = .ok (directory.child name) ∧
      rest.Shown files directory
  | directory, folder name inside rest =>
    files.entries (directory.child name) = inside.entries (directory.child name) ∧
      inside.Shown files (directory.child name) ∧ rest.Shown files directory

/-- What lies below a directory is this tree. -/
structure LiesAt (tree : Tree) (files : FileSystem) (directory : Path) : Prop where
  listed : files.entries directory = tree.entries directory
  shown : tree.Shown files directory
  distinct : tree.Distinct

/-- The files right in the directory. -/
def ownFiles (directory : Path) : Tree → List Path
  | empty => []
  | file name rest => directory.child name :: rest.ownFiles directory
  | folder _ _ rest => rest.ownFiles directory

/-- The files in the folders of a directory, folder after folder. -/
def deepFiles (extra : List String) : Path → Tree → List Path
  | _, empty => []
  | directory, file _ rest => rest.deepFiles extra directory
  | directory, folder name inside rest =>
    (if isExcluded name extra then []
      else inside.ownFiles (directory.child name) ++
        inside.deepFiles extra (directory.child name)) ++
      rest.deepFiles extra directory

/-- All files outside excluded folders. Those of a directory come before those of its folders. -/
def walkOrder (extra : List String) (directory : Path) (tree : Tree) : List Path :=
  tree.ownFiles directory ++ tree.deepFiles extra directory

/-- The folders that are not excluded, nor in an excluded one. -/
def entered (extra : List String) : Path → Tree → List Path
  | _, empty => []
  | directory, file _ rest => rest.entered extra directory
  | directory, folder name inside rest =>
    (if isExcluded name extra then []
      else directory.child name :: inside.entered extra (directory.child name)) ++
      rest.entered extra directory

/-! ## Places in a tree -/

/-- A place at or behind one of the entries of a directory; `rest` says how it goes on there. -/
def Placed (directory : Path) (names : List String) (rest : List String → Prop)
    (path : Path) : Prop :=
  ∃ name ∈ names, ∃ further, rest further ∧ path = directory.under (name :: further)

namespace Placed

variable {directory path : Path} {name : String} {names inner : List String}
  {rest : List String → Prop}

theorem mono {wider : List String → Prop} (wide : ∀ further, rest further → wider further)
    (placed : Placed directory names rest path) : Placed directory names wider path := by
  obtain ⟨name, listed, further, here, same⟩ := placed
  exact ⟨name, listed, further, wide further here, same⟩

theorem later (placed : Placed directory names rest path) :
    Placed directory (name :: names) rest path := by
  obtain ⟨other, listed, placed⟩ := placed
  exact ⟨other, List.mem_cons_of_mem _ listed, placed⟩

theorem inside (placed : Placed (directory.child name) inner rest path) :
    Placed directory (name :: names) (· ≠ []) path := by
  obtain ⟨next, -, further, -, rfl⟩ := placed
  exact ⟨name, List.mem_cons_self, next :: further, List.cons_ne_nil _ _, Path.under_child ..⟩

/-- Places behind entries of different names are different. -/
theorem disjoint {others : List String} {otherRest : List String → Prop} {first second : List Path}
    (fresh : name ∉ others) (left : ∀ path ∈ first, Placed directory [name] rest path)
    (right : ∀ path ∈ second, Placed directory others otherRest path) :
    List.Disjoint first second := by
  intro path inFirst inSecond
  obtain ⟨here, isName, further, -, same⟩ := left path inFirst
  obtain ⟨other, listed, behind, -, again⟩ := right path inSecond
  have heads := (List.cons.inj (Path.under_injective directory (same.symm.trans again))).1
  rw [← heads, List.mem_singleton.mp isName] at listed
  exact fresh listed

end Placed

section Places

variable {extra : List String} {directory path : Path} {tree : Tree}

theorem own_file_placed (member : path ∈ tree.ownFiles directory) :
    Placed directory tree.names (· = []) path := by
  induction tree with
  | empty => nomatch member
  | file name rest induction =>
      rcases List.mem_cons.mp member with rfl | later
      · exact ⟨name, List.mem_cons_self, [], rfl, rfl⟩
      · exact (induction later).later
  | folder name inside rest _ induction => exact (induction member).later

theorem deep_file_placed (member : path ∈ tree.deepFiles extra directory) :
    Placed directory tree.names (· ≠ []) path := by
  induction tree generalizing directory with
  | empty => nomatch member
  | file name rest induction => exact (induction member).later
  | folder name inside rest below induction =>
      rcases List.mem_append.mp member with here | later
      · split at here
        · nomatch here
        · rcases List.mem_append.mp here with own | deep
          · exact (own_file_placed own).inside
          · exact (below deep).inside
      · exact (induction later).later

theorem entered_placed (member : path ∈ tree.entered extra directory) :
    Placed directory tree.names (fun _ => True) path := by
  induction tree generalizing directory with
  | empty => nomatch member
  | file name rest induction => exact (induction member).later
  | folder name inside rest below induction =>
      rcases List.mem_append.mp member with here | later
      · split at here
        · nomatch here
        · rcases List.mem_cons.mp here with rfl | deeper
          · exact ⟨name, List.mem_cons_self, [], trivial, rfl⟩
          · exact (below deeper).inside.mono fun _ _ => trivial
      · exact (induction later).later

end Places

/-! ## No place comes twice -/

section Distinct

variable {extra : List String} {directory : Path} {tree : Tree}

theorem own_files_nodup (distinct : tree.Distinct) : (tree.ownFiles directory).Nodup := by
  induction tree with
  | empty => exact List.nodup_nil
  | file name rest induction =>
      apply List.nodup_cons.mpr
      refine ⟨?_, induction distinct.2⟩
      intro again
      obtain ⟨other, listed, further, -, same⟩ := own_file_placed again
      have heads := (List.cons.inj (Path.under_injective directory same)).1
      exact distinct.1 (heads ▸ listed)
  | folder name inside rest _ induction => exact induction distinct.2.2

/-- The files of a directory are one name away from it, those in its folders are further away. -/
theorem own_deep_disjoint : List.Disjoint (tree.ownFiles directory)
    (tree.deepFiles extra directory) := by
  intro path own deep
  obtain ⟨name, -, _, rfl, rfl⟩ := own_file_placed own
  obtain ⟨other, -, further, goesOn, same⟩ := deep_file_placed deep
  exact goesOn (List.cons.inj (Path.under_injective directory same)).2.symm

theorem deep_files_nodup (distinct : tree.Distinct) :
    (tree.deepFiles extra directory).Nodup := by
  induction tree generalizing directory with
  | empty => exact List.nodup_nil
  | file name rest induction => exact induction distinct.2
  | folder name inside rest below induction =>
      obtain ⟨fresh, insideDistinct, restDistinct⟩ := distinct
      rw [deepFiles]
      split
      · exact induction restDistinct
      · apply List.Nodup.append
        · exact (own_files_nodup insideDistinct).append (below insideDistinct) own_deep_disjoint
        · exact induction restDistinct
        · apply Placed.disjoint fresh
          · intro path member
            rcases List.mem_append.mp member with own | deep
            · exact (own_file_placed own).inside
            · exact (deep_file_placed deep).inside
          · exact fun path => deep_file_placed

theorem walk_order_nodup (distinct : tree.Distinct) : (tree.walkOrder extra directory).Nodup :=
  (own_files_nodup distinct).append (deep_files_nodup distinct) own_deep_disjoint

theorem not_entered_self : directory ∉ tree.entered extra directory := by
  intro member
  obtain ⟨name, -, names, -, same⟩ := entered_placed member
  have here : directory.under [] = directory.under (name :: names) := by
    rw [Path.under_nil]
    exact same
  nomatch Path.under_injective directory here

/-- Folders in a folder are not among those below entries of other names. -/
theorem entered_disjoint {name : String} {inside rest : Tree} (fresh : name ∉ rest.names) :
    List.Disjoint (directory.child name :: inside.entered extra (directory.child name))
      (rest.entered extra directory) := by
  have left : ∀ path ∈ directory.child name :: inside.entered extra (directory.child name),
      Placed directory [name] (fun _ => True) path := by
    intro path member
    rcases List.mem_cons.mp member with rfl | deeper
    · exact ⟨name, List.mem_cons_self, [], trivial, rfl⟩
    · exact (entered_placed deeper).inside.mono fun _ _ => trivial
  exact Placed.disjoint fresh left fun path => entered_placed

end Distinct

/-! ## The walk -/

theorem eq_empty_of_entries {directory : Path} {tree : Tree}
    (nothing : tree.entries directory = []) : tree = empty := by
  cases tree with
  | empty => rfl
  | file name rest => nomatch nothing
  | folder name inside rest => nomatch nothing

theorem accepted_files_entries (directory : Path) (tree : Tree) :
    acceptedFiles (fun _ => true) (tree.entries directory) = tree.ownFiles directory := by
  induction tree with
  | empty => rfl
  | file name rest induction => exact congrArg (directory.child name :: ·) induction
  | folder name inside rest _ induction => exact induction

theorem entered_directories_folder (extra : List String) (directory : Path) (name : String)
    (inside rest : Tree) :
    enteredDirectories extra ((folder name inside rest).entries directory) =
      (if isExcluded name extra then [] else [directory.child name]) ++
        enteredDirectories extra (rest.entries directory) := by
  cases excluded : isExcluded name extra <;> simp [enteredDirectories, entries, excluded]

section Walk

variable {files : FileSystem} {extra : List String}

/-- What a walk without a deadline meets from a stack of directories on. -/
def met (files : FileSystem) (extra : List String) (unseen : List Path) (checks : Nat)
    (stack : List Path) : List Path :=
  (walkFrom files extra (fun _ => true) (fun _ => false) unseen checks stack).files

/-- A directory that is not known has no entries. -/
theorem met_directory (extra : List String) {directory : Path} {tree : Tree} (unseen : List Path)
    (checks : Nat) (stack : List Path)
    (listed : files.entries directory = tree.entries directory)
    (known : directory ∈ unseen ∨ files.entries directory = []) :
    met files extra unseen checks (directory :: stack) =
      tree.ownFiles directory ++ met files extra (unseen.erase directory) (checks + 1)
        (enteredDirectories extra (tree.entries directory) ++ stack) := by
  by_cases here : directory ∈ unseen
  · rw [met, walkFrom, if_neg (by decide), dif_pos here]
    dsimp only
    rw [listed, accepted_files_entries]
    rfl
  · rw [known.resolve_left here] at listed
    rw [eq_empty_of_entries listed.symm, List.erase_of_not_mem here, met, walkFrom,
      if_neg (by decide), dif_neg here]
    rfl

/-- The folders of a directory are walked one after the other. What is left of the stack is walked
after them, with all their folders seen. -/
theorem met_folders {directory : Path} {tree : Tree} (unseen : List Path) (checks : Nat)
    (stack : List Path) (shown : tree.Shown files directory) (distinct : tree.Distinct)
    (known : ∀ path ∈ tree.entered extra directory, path ∈ unseen ∨ files.entries path = []) :
    ∃ later, met files extra unseen checks
        (enteredDirectories extra (tree.entries directory) ++ stack) =
      tree.deepFiles extra directory ++
        met files extra (unseen.diff (tree.entered extra directory)) later stack := by
  induction tree generalizing directory unseen checks stack with
  | empty => exact ⟨checks, rfl⟩
  | file name rest induction => exact induction unseen checks stack shown.2 distinct.2 known
  | folder name inside rest below induction =>
      obtain ⟨listed, insideShown, restShown⟩ := shown
      obtain ⟨fresh, insideDistinct, restDistinct⟩ := distinct
      rw [entered_directories_folder, deepFiles, entered]
      rw [entered] at known
      by_cases excluded : isExcluded name extra = true
      · simp only [if_pos excluded, List.nil_append] at known ⊢
        exact induction unseen checks stack restShown restDistinct known
      · simp only [if_neg excluded] at known ⊢
        have apart : List.Disjoint
            (directory.child name :: inside.entered extra (directory.child name))
            (rest.entered extra directory) := entered_disjoint fresh
        have knownInside : ∀ path ∈ inside.entered extra (directory.child name),
            path ∈ unseen.erase (directory.child name) ∨ files.entries path = [] := by
          intro path member
          have other : path ≠ directory.child name := fun same => not_entered_self (same ▸ member)
          rw [List.mem_erase_of_ne other]
          exact known path (List.mem_append_left _ (List.mem_cons_of_mem _ member))
        have knownRest : ∀ path ∈ rest.entered extra directory,
            path ∈ (unseen.erase (directory.child name)).diff
              (inside.entered extra (directory.child name)) ∨ files.entries path = [] := by
          intro path member
          rw [← List.diff_cons]
          exact (known path (List.mem_append_right _ member)).imp_left fun unseen =>
            List.mem_diff_of_mem unseen fun already => apart already member
        obtain ⟨later, insideMet⟩ := below (unseen.erase (directory.child name)) (checks + 1)
          (enteredDirectories extra (rest.entries directory) ++ stack) insideShown insideDistinct
          knownInside
        obtain ⟨last, restMet⟩ := induction _ later stack restShown restDistinct knownRest
        refine ⟨last, ?_⟩
        have here := met_directory extra unseen checks
          (enteredDirectories extra (rest.entries directory) ++ stack) listed
          (known _ (List.mem_append_left _ List.mem_cons_self))
        rw [List.append_assoc, List.singleton_append, here, insideMet, restMet, List.cons_append,
          List.diff_cons, List.diff_append]
        simp only [List.append_assoc]

theorem known_or_empty (files : FileSystem) (path : Path) :
    path ∈ files.directories ∨ files.entries path = [] := by
  rw [or_iff_not_imp_left]
  intro unknown
  have missing : (files.listings.find? fun listing => listing.1 == path) = none := by
    apply List.find?_eq_none.mpr
    intro listing member same
    exact unknown (List.mem_map.mpr ⟨listing, member, eq_of_beq same⟩)
  rw [FileSystem.entries, missing]
  rfl

/-- A walk from the directory of a tree meets its files in order. -/
theorem met_tree {directory : Path} {tree : Tree} (lies : tree.LiesAt files directory)
    (checks : Nat) :
    met files extra files.directories checks [directory] = tree.walkOrder extra directory := by
  have known : ∀ path ∈ tree.entered extra directory,
      path ∈ files.directories.erase directory ∨ files.entries path = [] := by
    intro path member
    have other : path ≠ directory := fun same => not_entered_self (same ▸ member)
    rw [List.mem_erase_of_ne other]
    exact known_or_empty files path
  obtain ⟨later, folders⟩ := met_folders (files.directories.erase directory) (checks + 1) []
    lies.shown lies.distinct known
  rw [met_directory extra _ checks [] lies.listed (known_or_empty files directory), folders,
    walkOrder, met, walkFrom, List.append_nil]

end Walk

/-! ## What lies below a directory -/

section Below

variable {files : FileSystem} {extra : List String} {root directory path : Path} {tree : Tree}

theorem mem_own_files_iff : path ∈ tree.ownFiles directory ↔
    ∃ entry ∈ tree.entries directory, entry.isDirectory = false ∧ entry.path = path := by
  induction tree with
  | empty => simp [ownFiles, entries]
  | file name rest induction =>
      simp only [ownFiles, entries, List.mem_cons, induction, exists_eq_or_imp, true_and]
      rw [eq_comm]
  | folder name inside rest _ induction => simp [ownFiles, entries, induction]

theorem own_file_below (reached : Reaches files extra root directory)
    (listed : ∀ entry ∈ tree.entries directory, entry ∈ files.entries directory)
    (member : path ∈ tree.ownFiles directory) : LiesBelow files extra root path := by
  obtain ⟨entry, inside, isFile, same⟩ := mem_own_files_iff.mp member
  exact ⟨directory, reached, entry, listed entry inside, isFile, same⟩

theorem deep_file_below (reached : Reaches files extra root directory)
    (shown : tree.Shown files directory)
    (listed : ∀ entry ∈ tree.entries directory, entry ∈ files.entries directory)
    (member : path ∈ tree.deepFiles extra directory) : LiesBelow files extra root path := by
  induction tree generalizing directory with
  | empty => nomatch member
  | file name rest induction =>
      exact induction reached shown.2 (List.forall_mem_cons.mp listed).2 member
  | folder name inside rest below induction =>
      obtain ⟨here, later⟩ := List.forall_mem_cons.mp listed
      obtain ⟨insideListed, insideShown, restShown⟩ := shown
      rcases List.mem_append.mp member with inFolder | inRest
      · split at inFolder
        · nomatch inFolder
        · next kept =>
            have entered := Reaches.folder reached here rfl (Bool.eq_false_iff.mpr kept)
            have same : ∀ entry ∈ inside.entries (directory.child name),
                entry ∈ files.entries (directory.child name) := by
              intro entry
              rw [insideListed]
              exact id
            rcases List.mem_append.mp inFolder with own | deep
            · exact own_file_below entered same own
            · exact below entered insideShown same deep
      · exact induction reached restShown later inRest

/-- A folder of a tree is a tree, and its files are files of the whole. -/
theorem folder_of_entry {entry : Entry} (shown : tree.Shown files directory)
    (distinct : tree.Distinct) (member : entry ∈ tree.entries directory)
    (isFolder : entry.isDirectory = true) (kept : isExcluded entry.name extra = false) :
    ∃ inside : Tree, inside.LiesAt files entry.path ∧
      ∀ path ∈ inside.walkOrder extra entry.path, path ∈ tree.deepFiles extra directory := by
  induction tree with
  | empty => nomatch member
  | file name rest induction =>
      rcases List.mem_cons.mp member with rfl | later
      · nomatch isFolder
      · exact induction shown.2 distinct.2 later
  | folder name inside rest _ induction =>
      rcases List.mem_cons.mp member with rfl | later
      · refine ⟨inside, ⟨shown.1, shown.2.1, distinct.2.1⟩, ?_⟩
        intro path inFolder
        rw [deepFiles, if_neg (Bool.eq_false_iff.mp kept)]
        exact List.mem_append_left _ inFolder
      · obtain ⟨found, lies, files⟩ := induction shown.2.2 distinct.2.2 later
        exact ⟨found, lies, fun path inFolder => List.mem_append_right _ (files path inFolder)⟩

theorem tree_of_reaches (lies : tree.LiesAt files root)
    (reached : Reaches files extra root directory) :
    ∃ inside : Tree, inside.LiesAt files directory ∧
      ∀ path ∈ inside.walkOrder extra directory, path ∈ tree.walkOrder extra root := by
  induction reached with
  | root => exact ⟨tree, lies, fun path member => member⟩
  | folder above listed isFolder kept induction =>
      obtain ⟨inside, here, whole⟩ := induction
      rw [here.listed] at listed
      obtain ⟨found, below, deep⟩ := folder_of_entry here.shown here.distinct listed isFolder kept
      exact ⟨found, below, fun path member =>
        whole path (List.mem_append_right _ (deep path member))⟩

theorem mem_walk_order_iff (lies : tree.LiesAt files root) :
    path ∈ tree.walkOrder extra root ↔ LiesBelow files extra root path := by
  constructor
  · intro member
    have listed : ∀ entry ∈ tree.entries root, entry ∈ files.entries root := by
      intro entry
      rw [lies.listed]
      exact id
    rcases List.mem_append.mp member with own | deep
    · exact own_file_below .root listed own
    · exact deep_file_below .root lies.shown listed deep
  · rintro ⟨directory, reached, entry, listed, isFile, rfl⟩
    obtain ⟨inside, here, whole⟩ := tree_of_reaches lies reached
    rw [here.listed] at listed
    exact whole _ (List.mem_append_left _ (mem_own_files_iff.mpr ⟨entry, listed, isFile, rfl⟩))

theorem resolve_entry {entry : Entry} (shown : tree.Shown files directory)
    (member : entry ∈ tree.entries directory) (isFile : entry.isDirectory = false) :
    files.resolve entry.path = .ok entry.path := by
  induction tree with
  | empty => nomatch member
  | file name rest induction =>
      rcases List.mem_cons.mp member with rfl | later
      · exact shown.1
      · exact induction shown.2 later
  | folder name inside rest _ induction =>
      rcases List.mem_cons.mp member with rfl | later
      · nomatch isFile
      · exact induction shown.2.2 later

/-- No file of a tree is a link. -/
theorem resolve_file (lies : tree.LiesAt files root) (below : LiesBelow files extra root path) :
    files.resolve path = .ok path := by
  obtain ⟨directory, reached, entry, listed, isFile, rfl⟩ := below
  obtain ⟨inside, here, -⟩ := tree_of_reaches lies reached
  rw [here.listed] at listed
  exact resolve_entry here.shown listed isFile

end Below

end Tree

end Files

end EditImpact
