import EditImpact.Files.Memory
import EditImpact.Proofs.Files.Trees
import EditImpact.Proofs.Files.Walks

/-!
# Walks are recursive traversals

A walk keeps a stack of directories, and the directories that it entered before are never entered
again, also from another root. Through a tree of directories it finds the files that the recursive
traversal meets, in the order in which they are met for the first time
(`Walk.run_is_traversal`). These are the accepted files that lie below some root through names that
are not excluded.
-/

namespace EditImpact

set_option autoImplicit false

namespace Files

/-- The entries of every directory lie right in it. They have different names and are listed in name
order. -/
structure FileSystem.IsTree (files : FileSystem) : Prop where
  inside : ∀ directory, ∀ entry ∈ files.entries directory, entry.path = directory.child entry.name
  inOrder : ∀ directory, (files.entries directory).Pairwise fun a b => a.name < b.name

/-- What a file system knows of a directory is in its listings. -/
theorem FileSystem.entries_listed (files : FileSystem) (directory : Path) :
    files.entries directory = [] ∨ (directory, files.entries directory) ∈ files.listings := by
  rw [FileSystem.entries]
  cases found : files.listings.find? fun listing => listing.1 == directory with
  | none => exact .inl rfl
  | some listing =>
      have here := List.find?_some found
      exact .inr (eq_of_beq here ▸ List.mem_of_find?_eq_some found)

theorem FileSystem.is_tree_of_listings {files : FileSystem}
    (each : ∀ listing ∈ files.listings,
      (∀ entry ∈ listing.2, entry.path = listing.1.child entry.name) ∧
        listing.2.Pairwise fun a b => a.name < b.name) : files.IsTree := by
  constructor
  · intro directory entry member
    rcases files.entries_listed directory with nothing | listing
    · rw [nothing] at member
      nomatch member
    · exact (each _ listing).1 entry member
  · intro directory
    rcases files.entries_listed directory with nothing | listing
    · rw [nothing]
      exact .nil
    · exact (each _ listing).2

/-- The paths of the chosen entries of a directory, in the order of their names. -/
def FileSystem.pathsByName (files : FileSystem) (directory : Path) (choose : Entry → Bool) :
    List Path :=
  (((files.entries directory).filter choose).mergeSort fun a b => a.name ≤ b.name).map (·.path)

/-- The files right in a directory. -/
def FileSystem.filesIn (files : FileSystem) (directory : Path) : List Path :=
  files.pathsByName directory fun entry => !entry.isDirectory

/-- The directories right in a directory, without the excluded ones. -/
def FileSystem.foldersIn (files : FileSystem) (extra : List String) (directory : Path) :
    List Path :=
  files.pathsByName directory fun entry => entry.isDirectory && !isExcluded entry.name extra

/-- The recursive traversal of some directories, one after the other, and the files that it meets.
The files of a directory come before what its subdirectories contain. -/
inductive Traversal (files : FileSystem) (extra : List String) : List Path → List Path → Prop where
  | done : Traversal files extra [] []
  | directory {directory : Path} {others below later : List Path}
      (inside : Traversal files extra (files.foldersIn extra directory) below)
      (after : Traversal files extra others later) :
      Traversal files extra (directory :: others) (files.filesIn directory ++ below ++ later)

section Listing

variable {files : FileSystem} {extra : List String} {directory path : Path}

theorem mem_paths_by_name {choose : Entry → Bool} :
    path ∈ files.pathsByName directory choose ↔
      ∃ entry ∈ files.entries directory, choose entry = true ∧ entry.path = path := by
  simp only [FileSystem.pathsByName, List.mem_map, List.mem_mergeSort, List.mem_filter, and_assoc]

theorem mem_folders_in : path ∈ files.foldersIn extra directory ↔
    ∃ entry ∈ files.entries directory, (entry.isDirectory = true ∧
      isExcluded entry.name extra = false) ∧ entry.path = path := by
  simp only [FileSystem.foldersIn, mem_paths_by_name, Bool.and_eq_true, Bool.not_eq_true']

theorem mem_files_in : path ∈ files.filesIn directory ↔
    ∃ entry ∈ files.entries directory, entry.isDirectory = false ∧ entry.path = path := by
  simp only [FileSystem.filesIn, mem_paths_by_name, Bool.not_eq_true']

/-- A directory of a tree is listed in name order already. -/
theorem FileSystem.IsTree.paths_by_name (tree : files.IsTree) (directory : Path)
    (choose : Entry → Bool) :
    files.pathsByName directory choose =
      ((files.entries directory).filter choose).map (·.path) := by
  have sorted : ((files.entries directory).filter choose).Pairwise
      fun a b => decide (a.name ≤ b.name) = true := by
    apply ((tree.inOrder directory).filter choose).imp
    intro a b before
    exact decide_eq_true (Std.le_of_lt before)
  rw [pathsByName, List.mergeSort_of_pairwise sorted]

theorem FileSystem.IsTree.folder_deeper (tree : files.IsTree)
    (member : path ∈ files.foldersIn extra directory) :
    path.segments.length = directory.segments.length + 1 := by
  obtain ⟨entry, listed, -, rfl⟩ := mem_folders_in.mp member
  rw [tree.inside directory entry listed]
  simp [Path.child]

theorem reaches_iff : Reaches files extra directory path ↔
    path = directory ∨
      ∃ folder ∈ files.foldersIn extra directory, Reaches files extra folder path := by
  constructor
  · intro reached
    induction reached with
    | root => exact .inl rfl
    | folder above listed isFolder kept induction =>
        rcases induction with rfl | ⟨folder, member, reached⟩
        · exact .inr ⟨_, mem_folders_in.mpr ⟨_, listed, ⟨isFolder, kept⟩, rfl⟩, .root⟩
        · exact .inr ⟨folder, member, .folder reached listed isFolder kept⟩
  · rintro (rfl | ⟨folder, member, reached⟩)
    · exact .root
    · obtain ⟨entry, listed, ⟨isFolder, kept⟩, rfl⟩ := mem_folders_in.mp member
      induction reached with
      | root => exact .folder .root listed isFolder kept
      | folder _ listedToo isFolderToo keptToo induction =>
          exact .folder induction listedToo isFolderToo keptToo

theorem FileSystem.IsTree.reached_deeper (tree : files.IsTree)
    (reached : Reaches files extra directory path) :
    directory.segments.length ≤ path.segments.length := by
  induction reached with
  | root => exact Nat.le_refl _
  | folder _ listed isFolder kept induction =>
      have deeper := tree.folder_deeper (mem_folders_in.mpr ⟨_, listed, ⟨isFolder, kept⟩, rfl⟩)
      omega

/-- What lies below a directory is a file of the directory or lies below one of its folders. -/
theorem lies_below_iff : LiesBelow files extra directory path ↔
    path ∈ files.filesIn directory ∨
      ∃ folder ∈ files.foldersIn extra directory, LiesBelow files extra folder path := by
  constructor
  · rintro ⟨place, reached, entry, listed, isFile, rfl⟩
    rcases reaches_iff.mp reached with rfl | ⟨folder, member, reached⟩
    · exact .inl (mem_files_in.mpr ⟨entry, listed, isFile, rfl⟩)
    · exact .inr ⟨folder, member, place, reached, entry, listed, isFile, rfl⟩
  · rintro (own | ⟨folder, member, place, reached, found⟩)
    · exact ⟨directory, .root, mem_files_in.mp own⟩
    · exact ⟨place, reaches_iff.mpr (.inr ⟨folder, member, reached⟩), found⟩

end Listing

/-! ## Trees in memory -/

namespace MemoryTree

variable {directory : Path} {entry : Entry}

theorem entry_below_path {path : Path} (shown : entryBelow directory path = some entry) :
    entry.path = directory.child entry.name := by
  unfold entryBelow at shown
  split at shown
  · cases shown
    rfl
  · nomatch shown

theorem mem_of_add_entry {entries : List Entry} {added : Entry}
    (member : entry ∈ addEntry entries added) : entry ∈ entries ∨ entry = added := by
  unfold addEntry at member
  split at member
  · exact .inl member
  · rwa [List.mem_append, List.mem_singleton] at member

theorem add_entry_distinct {entries : List Entry} (added : Entry)
    (distinct : (entries.map (·.name)).Nodup) :
    ((addEntry entries added).map (·.name)).Nodup := by
  unfold addEntry
  split
  · exact distinct
  · next fresh =>
      rw [List.map_append, List.map_singleton]
      apply List.Nodup.append distinct (List.nodup_singleton _)
      rw [List.disjoint_singleton, List.mem_map]
      rintro ⟨other, member, same⟩
      exact fresh (List.any_eq_true.mpr ⟨other, member, beq_iff_eq.mpr same⟩)

theorem entries_of_distinct (tree : MemoryTree) (directory : Path) :
    (tree.entriesOf directory).Pairwise fun a b => a.name < b.name := by
  have distinct : ((tree.entriesOf directory).map (·.name)).Nodup := by
    apply ((List.mergeSort_perm _ _).map _).nodup_iff.mpr
    apply List.foldlRecOn (motive := fun entries => (entries.map (·.name)).Nodup) _ addEntry
    · exact List.nodup_nil
    · intro entries distinct added _
      exact add_entry_distinct added distinct
  have sorted : (tree.entriesOf directory).Pairwise fun a b => decide (a.name ≤ b.name) = true := by
    apply List.pairwise_mergeSort
    · intro a b c first second
      exact decide_eq_true (String.le_trans (of_decide_eq_true first) (of_decide_eq_true second))
    · intro a b
      simpa using String.le_total a.name b.name
  apply (sorted.and (List.pairwise_map.mp distinct)).imp
  intro a b ⟨before, other⟩
  exact Std.lt_of_le_of_ne (of_decide_eq_true before) other

theorem mem_entries_of {tree : MemoryTree} (listed : entry ∈ tree.entriesOf directory) :
    ∃ file ∈ tree, entryBelow directory file.1 = some entry := by
  rw [entriesOf, List.mem_mergeSort] at listed
  revert listed
  apply List.foldlRecOn (motive := fun entries => entry ∈ entries →
    ∃ file ∈ tree, entryBelow directory file.1 = some entry) _ addEntry
  · nofun
  · intro entries earlier added member listed
    rcases mem_of_add_entry listed with inside | rfl
    · exact earlier inside
    · exact List.mem_filterMap.mp member

/-- What a tree in memory shows is a tree of directories. -/
theorem is_tree (tree : MemoryTree) : tree.fileSystem.IsTree := by
  apply FileSystem.is_tree_of_listings
  intro listing member
  obtain ⟨directory, -, rfl⟩ := List.mem_map.mp member
  refine ⟨?inside, entries_of_distinct tree directory⟩
  intro entry listed
  obtain ⟨file, -, shown⟩ := mem_entries_of listed
  exact entry_below_path shown

end MemoryTree

/-! ## The traversal of a tree -/

section Traversing

variable {files : FileSystem} {extra : List String} {directory path : Path}
  {stack order : List Path}

theorem Traversal.unique {other : List Path} (first : Traversal files extra stack order)
    (second : Traversal files extra stack other) : order = other := by
  induction first generalizing other with
  | done => cases second with | done => rfl
  | directory _ _ below later =>
      cases second with
      | directory inside after => rw [below inside, later after]

theorem Traversal.append {more later : List Path} (first : Traversal files extra stack order)
    (second : Traversal files extra more later) :
    Traversal files extra (stack ++ more) (order ++ later) := by
  induction first with
  | done => exact second
  | directory inside _ _ after =>
      rw [List.append_assoc]
      exact .directory inside after

/-- The traversal meets what lies below one of the directories. -/
theorem Traversal.mem_iff (traversal : Traversal files extra stack order) :
    path ∈ order ↔ ∃ root ∈ stack, LiesBelow files extra root path := by
  induction traversal with
  | done => simp
  | directory _ _ below later =>
      rw [List.mem_append, List.mem_append, below, later, ← lies_below_iff]
      simp

theorem paths_by_name_empty (nothing : files.entries directory = []) (choose : Entry → Bool) :
    files.pathsByName directory choose = [] := by
  simp [FileSystem.pathsByName, nothing]

theorem Traversal.of_entries (tree : files.IsTree) (own folders : List Path)
    {others below later : List Path}
    (isOwn : ((files.entries directory).filter fun entry => !entry.isDirectory).map (·.path) = own)
    (areFolders : ((files.entries directory).filter fun entry =>
      entry.isDirectory && !isExcluded entry.name extra).map (·.path) = folders)
    (inside : Traversal files extra folders below) (after : Traversal files extra others later) :
    Traversal files extra (directory :: others) (own ++ below ++ later) := by
  rw [← tree.paths_by_name] at isOwn areFolders
  subst isOwn areFolders
  exact .directory inside after

theorem traversal_of_each (each : ∀ root ∈ stack, ∃ order, Traversal files extra [root] order) :
    ∃ order, Traversal files extra stack order := by
  induction stack with
  | nil => exact ⟨[], .done⟩
  | cons root stack induction =>
      obtain ⟨here, others⟩ := List.forall_mem_cons.mp each
      obtain ⟨first, traversal⟩ := here
      obtain ⟨later, after⟩ := induction others
      exact ⟨first ++ later, traversal.append after⟩

theorem depth_bounded (paths : List Path) :
    ∃ most, ∀ path ∈ paths, path.segments.length ≤ most := by
  induction paths with
  | nil => exact ⟨0, nofun⟩
  | cons path paths induction =>
      obtain ⟨most, bounded⟩ := induction
      refine ⟨max path.segments.length most, List.forall_mem_cons.mpr ⟨Nat.le_max_left _ _, ?_⟩⟩
      intro other member
      exact Nat.le_trans (bounded other member) (Nat.le_max_right _ _)

/-- The traversal of a tree ends, from any directories. -/
theorem FileSystem.IsTree.traversal (tree : files.IsTree) (extra : List String)
    (stack : List Path) : ∃ order, Traversal files extra stack order := by
  obtain ⟨most, bounded⟩ := depth_bounded files.directories
  have single (left : Nat) (directory : Path) (room : most < directory.segments.length + left) :
      ∃ order, Traversal files extra [directory] order := by
    -- on how many levels may still come, as folders are one level deeper
    induction left generalizing directory with
    | zero =>
        have unknown : directory ∉ files.directories := by
          intro known
          have within := bounded directory known
          omega
        have nothing := (Tree.known_or_empty files directory).resolve_left unknown
        have inside : Traversal files extra (files.foldersIn extra directory) [] := by
          rw [FileSystem.foldersIn, paths_by_name_empty nothing]
          exact .done
        exact ⟨_, .directory inside .done⟩
    | succ left induction =>
        have each : ∀ folder ∈ files.foldersIn extra directory,
            ∃ order, Traversal files extra [folder] order := by
          intro folder member
          apply induction
          rw [tree.folder_deeper member]
          omega
        obtain ⟨below, inside⟩ := traversal_of_each each
        exact ⟨_, .directory inside .done⟩
  exact traversal_of_each fun root _ => single (most + 1) root (by omega)

/-! ## Lists that agree on the first of equal paths -/

theorem erase_dups_append_congr {first second : List Path}
    (same : first.eraseDups = second.eraseDups) (more : List Path) :
    (first ++ more).eraseDups = (second ++ more).eraseDups := by
  have members (path : Path) : path ∈ first ↔ path ∈ second := by
    rw [← List.mem_eraseDups, same, List.mem_eraseDups]
  have left : more.removeAll first = more.removeAll second := by
    apply List.filter_congr
    intro path _
    rw [Bool.eq_iff_iff]
    simp [members path]
  rw [List.eraseDups_append, List.eraseDups_append, same, left]

theorem erase_dups_append_of_subset {first more : List Path} (known : ∀ path ∈ more, path ∈ first) :
    (first ++ more).eraseDups = first.eraseDups := by
  have nothing : more.removeAll first = [] := by
    apply List.filter_eq_nil_iff.mpr
    intro path member
    simp [known path member]
  rw [List.eraseDups_append, nothing]
  exact List.append_nil _

/-! ## The walk -/

/-- A directory is still to be entered, or the files below it were met. -/
def Accounted (files : FileSystem) (extra : List String) (unseen done : List Path)
    (directory : Path) : Prop :=
  directory ∈ unseen ∨ ∀ path, LiesBelow files extra directory path → path ∈ done

/-- A walk that met `done` gets through the directories `stack` before it comes to `rest`. Up to
repetitions it meets the files in `order`, and it loses account of no directory. -/
def GetsThrough (files : FileSystem) (extra : List String) (unseen done : List Path) (checks : Nat)
    (stack rest order : List Path) : Prop :=
  ∃ found left later,
    Tree.met files extra unseen checks (stack ++ rest) =
      found ++ Tree.met files extra left later rest ∧
    (done ++ found).eraseDups = (done ++ order).eraseDups ∧
    ∀ place, Accounted files extra unseen done place →
      Accounted files extra left (done ++ order) place

theorem met_entered (tree : files.IsTree) {unseen : List Path} (here : directory ∈ unseen)
    (checks : Nat) (stack : List Path) :
    Tree.met files extra unseen checks (directory :: stack) =
      files.filesIn directory ++ Tree.met files extra (unseen.erase directory) (checks + 1)
        (files.foldersIn extra directory ++ stack) := by
  have own : files.filesIn directory = acceptedFiles (fun _ => true) (files.entries directory) := by
    rw [FileSystem.filesIn, tree.paths_by_name]
    simp [acceptedFiles]
  have folders : files.foldersIn extra directory =
      enteredDirectories extra (files.entries directory) := tree.paths_by_name directory _
  rw [Tree.met, walkFrom, if_neg (by decide), dif_pos here, own, folders]
  rfl

theorem met_seen {unseen : List Path} (seen : directory ∉ unseen) (checks : Nat)
    (stack : List Path) :
    Tree.met files extra unseen checks (directory :: stack) =
      Tree.met files extra unseen (checks + 1) stack := by
  rw [Tree.met, walkFrom, if_neg (by decide), dif_neg seen]
  rfl

namespace GetsThrough

variable {unseen done more rest below further : List Path} {checks : Nat}

theorem nothing : GetsThrough files extra unseen done checks [] rest [] := by
  refine ⟨[], unseen, checks, rfl, rfl, ?_⟩
  rw [List.append_nil]
  exact fun place => id

theorem append (first : GetsThrough files extra unseen done checks stack (more ++ rest) order)
    (second : ∀ left later, (∀ place, Accounted files extra unseen done place →
        Accounted files extra left (done ++ order) place) →
      GetsThrough files extra left (done ++ order) later more rest further) :
    GetsThrough files extra unseen done checks (stack ++ more) rest (order ++ further) := by
  obtain ⟨found, left, later, met, same, kept⟩ := first
  obtain ⟨foundMore, leftMore, laterMore, metMore, sameMore, keptMore⟩ := second left later kept
  refine ⟨found ++ foundMore, leftMore, laterMore, ?_, ?_, ?_⟩
  · rw [List.append_assoc, met, metMore, List.append_assoc]
  · rw [← List.append_assoc, ← List.append_assoc, ← sameMore]
    exact erase_dups_append_congr same foundMore
  · intro place accounted
    rw [← List.append_assoc]
    exact keptMore place (kept place accounted)

/-- A directory is entered: what lies below it is among its own files and those in its folders. -/
theorem entered (tree : files.IsTree) (here : directory ∈ unseen)
    (inside : Traversal files extra (files.foldersIn extra directory) below)
    (folders : GetsThrough files extra (unseen.erase directory) (done ++ files.filesIn directory)
      (checks + 1) (files.foldersIn extra directory) rest below) :
    GetsThrough files extra unseen done checks [directory] rest
      (files.filesIn directory ++ below) := by
  obtain ⟨found, left, later, met, same, kept⟩ := folders
  rw [List.append_assoc, List.append_assoc] at same
  refine ⟨files.filesIn directory ++ found, left, later, ?_, same, ?_⟩
  · rw [List.singleton_append, met_entered tree here, met, List.append_assoc]
  · intro place accounted
    by_cases itself : place = directory
    · right
      intro path lies
      rw [List.mem_append, List.mem_append, inside.mem_iff]
      exact .inr (lies_below_iff.mp (itself ▸ lies))
    · rw [← List.append_assoc]
      apply kept
      rw [Accounted, List.mem_erase_of_ne itself]
      exact accounted.imp_right fun covered path lies => List.mem_append_left _ (covered path lies)

/-- A directory is not entered again: all files below it were met. -/
theorem seen (known : directory ∉ unseen) (accounted : Accounted files extra unseen done directory)
    (inside : Traversal files extra (files.foldersIn extra directory) below) :
    GetsThrough files extra unseen done checks [directory] rest
      (files.filesIn directory ++ below) := by
  have covered := accounted.resolve_left known
  refine ⟨[], unseen, checks + 1, met_seen known checks rest, ?_, ?_⟩
  · rw [List.append_nil, erase_dups_append_of_subset]
    intro path member
    rw [List.mem_append, inside.mem_iff] at member
    exact covered path (lies_below_iff.mpr member)
  · intro place kept
    exact kept.imp_right fun covered path lies => List.mem_append_left _ (covered path lies)

/-- A walk gets through directories as the traversal does. -/
theorem of_traversal (tree : files.IsTree) (traversal : Traversal files extra stack order)
    (known : ∀ root ∈ stack, ∀ place, Reaches files extra root place →
      Accounted files extra unseen done place) :
    GetsThrough files extra unseen done checks stack rest order := by
  induction traversal generalizing unseen done checks rest with
  | done => exact nothing
  | @directory directory others below later inside after belowMet laterMet =>
      obtain ⟨knownHere, knownOthers⟩ := List.forall_mem_cons.mp known
      have first : GetsThrough files extra unseen done checks [directory] (others ++ rest)
          (files.filesIn directory ++ below) := by
        by_cases here : directory ∈ unseen
        · apply entered tree here inside
          apply belowMet
          intro folder member place reached
          -- the directory itself is not entered again from its folders
          have deeper : place ≠ directory := by
            rintro rfl
            have below := tree.folder_deeper member
            have least := tree.reached_deeper reached
            omega
          rw [Accounted, List.mem_erase_of_ne deeper]
          exact (knownHere place (reaches_iff.mpr (.inr ⟨folder, member, reached⟩))).imp_right
            fun covered path lies => List.mem_append_left _ (covered path lies)
        · exact seen here (knownHere directory .root) inside
      apply append first
      intro left laterChecks kept
      exact laterMet fun root member place reached =>
        kept place (knownOthers root member place reached)

end GetsThrough

/-- Up to repetitions, a walk from the start meets what the traversal meets. -/
theorem met_of_tree (tree : files.IsTree) (traversal : Traversal files extra stack order)
    (checks : Nat) :
    (Tree.met files extra files.directories checks stack).eraseDups = order.eraseDups := by
  have known (place : Path) : Accounted files extra files.directories [] place := by
    refine (Tree.known_or_empty files place).imp_right fun nothing path lies => ?_
    rcases lies_below_iff.mp lies with own | ⟨folder, member, -⟩
    · rwa [FileSystem.filesIn, paths_by_name_empty nothing] at own
    · rw [FileSystem.foldersIn, paths_by_name_empty nothing] at member
      nomatch member
  have through : GetsThrough files extra files.directories [] checks stack [] order :=
    .of_traversal tree traversal fun _ _ place _ => known place
  obtain ⟨found, left, later, met, same, -⟩ := through
  rw [List.append_nil] at met
  rw [met, Tree.met, walkFrom, List.append_nil]
  exact same

end Traversing

section Runs

variable {walk : Walk} {clock : Clock} {roots : List Path} {accept : Path → Bool}

/-- A walk that ends in time finds the accepted files of the traversal, each where it is met
first. -/
theorem Walk.run_of_traversal (tree : walk.files.IsTree) {order : List Path}
    (traversal : Traversal walk.files walk.extraExcluded roots order)
    (inTime : (walk.run clock roots accept).1.timedOut = false) :
    (walk.run clock roots accept).1.files = (order.filter accept).eraseDups := by
  obtain ⟨expired, -, run⟩ := Walk.run_expiring walk clock roots accept
  rw [run] at inTime ⊢
  dsimp only at inTime ⊢
  rw [walk_from_in_time _ _ _ _ _ _ _ inTime, walk_from_accepting, ← filter_distinct_paths,
    distinct_paths_eq_erase_dups]
  have met := met_of_tree tree traversal 0
  rw [Tree.met] at met
  rw [met, ← distinct_paths_eq_erase_dups, filter_distinct_paths, distinct_paths_eq_erase_dups]

theorem Walk.mem_run_iff (tree : walk.files.IsTree)
    (inTime : (walk.run clock roots accept).1.timedOut = false) {path : Path} :
    path ∈ (walk.run clock roots accept).1.files ↔
      accept path = true ∧ ∃ root ∈ roots, LiesBelow walk.files walk.extraExcluded root path := by
  obtain ⟨order, traversal⟩ := tree.traversal walk.extraExcluded roots
  rw [Walk.run_of_traversal tree traversal inTime, List.mem_eraseDups, List.mem_filter,
    traversal.mem_iff, and_comm]

/-- A walk without a timeout finds the accepted files of the recursive traversal from its roots,
each of them once and where it is met first. -/
theorem Walk.run_is_traversal (tree : walk.files.IsTree) (untimed : walk.timeout = none) :
    (walk.run clock roots accept).1.timedOut = false ∧
      (∃ order, (∀ other, Traversal walk.files walk.extraExcluded roots other ↔ other = order) ∧
        (walk.run clock roots accept).1.files = (order.filter accept).eraseDups) ∧
      (walk.run clock roots accept).1.files.Nodup ∧
      ∀ path, path ∈ (walk.run clock roots accept).1.files ↔
        accept path = true ∧ ∃ root ∈ roots, LiesBelow walk.files walk.extraExcluded root path := by
  obtain ⟨expired, never, run⟩ := Walk.run_expiring walk clock roots accept
  have inTime : (walk.run clock roots accept).1.timedOut = false := by
    rw [run, never untimed]
    exact walk_from_without_deadline ..
  obtain ⟨order, traversal⟩ := tree.traversal walk.extraExcluded roots
  refine ⟨inTime, ⟨order, ?only, Walk.run_of_traversal tree traversal inTime⟩, ?once,
    fun path => Walk.mem_run_iff tree inTime⟩
  case only =>
    intro other
    exact ⟨fun also => also.unique traversal, fun same => same ▸ traversal⟩
  case once =>
    rw [run]
    exact distinct_paths_nodup _

/-- A project with a package that is excluded. -/
def shelf : FileSystem where
  read _ := .ok []
  size _ := none
  listings :=
    let top : Path := ⟨.slash, ["proj"]⟩
    [(top,
        [⟨"main.ts", top.child "main.ts", false⟩,
          ⟨"node_modules", top.child "node_modules", true⟩,
          ⟨"src", top.child "src", true⟩]),
      (top.child "node_modules", [⟨"dep.ts", (top.child "node_modules").child "dep.ts", false⟩]),
      (top.child "src", [⟨"cart.ts", (top.child "src").child "cart.ts", false⟩])]

theorem shelf_is_tree : shelf.IsTree := by
  apply FileSystem.is_tree_of_listings
  decide

/-- A root inside another one may come first, and a root may come twice. -/
theorem nested_roots_walked_once :
    let top : Path := ⟨.slash, ["proj"]⟩
    let walk : Walk := { files := shelf }
    let run := walk.run ⟨fun _ => 0⟩ [top.child "src", top.child "missing", top, top.child "src"]
      fun _ => true
    run.1.timedOut = false ∧
      run.1.files = [(top.child "src").child "cart.ts", top.child "main.ts"] := by
  intro top walk run
  have source {others later : List Path} (after : Traversal shelf [] others later) :
      Traversal shelf [] (top.child "src" :: others) ((top.child "src").child "cart.ts" :: later) :=
    .of_entries shelf_is_tree [(top.child "src").child "cart.ts"] [] (by decide) (by decide) .done
      after
  have whole {others later : List Path} (after : Traversal shelf [] others later) :
      Traversal shelf [] (top :: others)
        (top.child "main.ts" :: (top.child "src").child "cart.ts" :: later) :=
    .of_entries shelf_is_tree [top.child "main.ts"] [top.child "src"] (by decide) (by decide)
      (source .done) after
  have missing {others later : List Path} (after : Traversal shelf [] others later) :
      Traversal shelf [] (top.child "missing" :: others) later :=
    .of_entries shelf_is_tree [] [] (by decide) (by decide) .done after
  obtain ⟨inTime, ⟨order, only, found⟩, -, -⟩ :=
    @Walk.run_is_traversal walk ⟨fun _ => 0⟩ [top.child "src", top.child "missing", top,
      top.child "src"] (fun _ => true) shelf_is_tree rfl
  refine ⟨inTime, found.trans ?_⟩
  rw [← (only _).mp (source (missing (whole (source .done))))]
  decide

end Runs

end Files

end EditImpact
