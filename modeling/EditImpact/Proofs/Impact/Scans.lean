import EditImpact.Proofs.ChangeSet.Difference
import EditImpact.Proofs.Files.Trees
import EditImpact.Proofs.Impact.Limits
import EditImpact.Proofs.Impact.Walks

/-!
# Scans find the dependent files of a tree

A walk through a tree that ends in time judges the files of the tree in order. A scan therefore finds
the files that depend on a broken symbol, all of them and nothing else (`scan_finds_dependents`). It
fails only over a size limit that is no number of bytes, as soon as a size has to be compared with
it.
-/

namespace EditImpact

set_option autoImplicit false

namespace Impact

open Files Timed

/-- Another file than the source, with a name that some glob covers. -/
structure Named (scan : Settings.Scan) (source path : Path) : Prop where
  other : path ≠ source
  covered : ∃ glob ∈ scan.sourceGlobs, Glob.covers glob path.name = true

/-- A text imports the source, or it mentions a symbol that it does not define. -/
inductive Depends (source : Path) (symbols : List String) (content : List Char) : Prop where
  | imports (pattern : Pattern) (listed : pattern ∈ importPatterns source)
      (occurs : pattern.occurs content = true)
  | mentions (symbol : String) (listed : symbol ∈ symbols)
      (occurs : (identifier symbol.toList).occurs content = true)
      (undefined : ∀ pattern ∈ definitionPatterns symbol.toList, pattern.occurs content = false)

/-- The file can be read, and its text depends on the source or a symbol. -/
def IsDependent (files : FileSystem) (source : Path) (symbols : List String) (path : Path) : Prop :=
  ∃ content, files.read path = .ok content ∧ Depends source symbols content

def Unreadable (files : FileSystem) (path : Path) : Prop :=
  ∃ problem, files.read path = .error problem

/-- The size of a file has to be compared with a limit that is no number of bytes. -/
def LimitInTheWay (files : FileSystem) (scan : Settings.Scan) (source : Path) : Prop :=
  scan.byteLimit = none ∧ ∃ path, LiesBelow files scan.extraExcluded source.parent path ∧
    Named scan source path ∧ ∃ size, files.size path = some size

/-- Some of the places of an order: the wanted ones, once each and in order. -/
structure Selects (found order : List Path) (wanted : Path → Prop) : Prop where
  once : found.Nodup
  inOrder : found.Sublist order
  mem_iff : ∀ path, path ∈ found ↔ wanted path

theorem filter_selects {order : List Path} (once : order.Nodup) {keep : Path → Bool}
    {wanted : Path → Prop} (same : ∀ path, path ∈ order ∧ keep path = true ↔ wanted path) :
    Selects (order.filter keep) order wanted :=
  ⟨once.filter _, List.filter_sublist, fun path => List.mem_filter.trans (same path)⟩

theorem depends_on_iff {source : Path} {symbols : List String} {content : List Char} :
    dependsOn source symbols content = true ↔ Depends source symbols content := by
  rw [dependsOn, Bool.or_eq_true, imports, List.any_eq_true, List.any_eq_true]
  constructor
  · rintro (⟨pattern, listed, occurs⟩ | ⟨symbol, listed, referenced⟩)
    · exact .imports pattern listed occurs
    · rw [references, Bool.and_eq_true, Bool.not_eq_true', List.any_eq_false] at referenced
      exact .mentions symbol listed referenced.1 fun pattern member =>
        Bool.eq_false_iff.mpr (referenced.2 pattern member)
  · rintro (⟨pattern, listed, occurs⟩ | ⟨symbol, listed, occurs, undefined⟩)
    · exact .inl ⟨pattern, listed, occurs⟩
    · refine .inr ⟨symbol, listed, ?_⟩
      rw [references, Bool.and_eq_true, Bool.not_eq_true', List.any_eq_false]
      exact ⟨occurs, fun pattern member => Bool.eq_false_iff.mp (undefined pattern member)⟩

theorem is_downstream_iff {files : FileSystem} {source path : Path} {symbols : List String} :
    isDownstream files source symbols path = true ↔ IsDependent files source symbols path := by
  unfold isDownstream IsDependent
  cases files.read path with
  | ok content => simp [depends_on_iff]
  | error problem => simp

theorem is_unreadable_iff {files : FileSystem} {path : Path} :
    isUnreadable files path = true ↔ Unreadable files path := by
  unfold isUnreadable Unreadable
  cases files.read path with
  | ok content => simp
  | error problem => simp

theorem named_iff {files : FileSystem} {scan : Settings.Scan} {source path : Path}
    (unlinked : files.resolve path = .ok path) :
    isOther files (isNamed scan) source path = true ↔ Named scan source path := by
  rw [isOther, unlinked]
  dsimp only
  rw [Bool.and_eq_true, bne_iff_ne, isNamed, Glob.anyCovers, List.any_eq_true]
  constructor
  · rintro ⟨other, covered⟩
    exact ⟨other, covered⟩
  · rintro ⟨other, covered⟩
    exact ⟨other, covered⟩

theorem limit_in_the_way_iff {files : FileSystem} {scan : Settings.Scan} {source : Path}
    {tree : Tree} (lies : tree.LiesAt files source.parent) :
    LimitInTheWay files scan source ↔
      LimitMet files scan [source.parent] (isOther files (isNamed scan) source) := by
  apply and_congr_right'
  apply exists_congr
  intro path
  rw [within_singleton]
  apply and_congr_right
  intro below
  rw [named_iff (Tree.resolve_file lies below)]

/-! ## The scan -/

section Scan

variable {files : FileSystem} {scan : Settings.Scan} {clock : Clock} {source : Path} {tree : Tree}
  {changes : ChangeSet}

theorem mem_symbols {symbol : String} :
    symbol ∈ changes.symbols ↔ symbol ∈ changes.functions ∨ symbol ∈ changes.classes := by
  rw [ChangeSet.symbols, Inventory.distinct_eq_erase_dups, List.mem_eraseDups, List.mem_append]

theorem is_empty_eq_false_iff :
    changes.isEmpty = false ↔ ∃ symbol, symbol ∈ changes.symbols := by
  simp only [mem_symbols, exists_or, ChangeSet.isEmpty, Bool.and_eq_false_iff,
    List.isEmpty_eq_false_iff_exists_mem]

theorem Depends.mono {symbols more : List String} {content : List Char}
    (larger : ∀ symbol ∈ symbols, symbol ∈ more) (depends : Depends source symbols content) :
    Depends source more content := by
  cases depends with
  | imports pattern listed occurs => exact .imports pattern listed occurs
  | mentions symbol listed occurs undefined =>
      exact .mentions symbol (larger symbol listed) occurs undefined

theorem IsDependent.mono {symbols more : List String} {path : Path}
    (larger : ∀ symbol ∈ symbols, symbol ∈ more)
    (dependent : IsDependent files source symbols path) : IsDependent files source more path := by
  obtain ⟨content, read, depends⟩ := dependent
  exact ⟨content, read, depends.mono larger⟩

/-- What a scan of a tree answers if nothing stops it. -/
def found (files : FileSystem) (scan : Settings.Scan) (source : Path) (tree : Tree)
    (symbols : List String) : Scanned where
  files := (tree.walkOrder scan.extraExcluded source.parent).filter fun path =>
    isDownstream files source symbols path &&
      (isOther files (isNamed scan) source path && isSmall files scan path)
  skipped := (tree.walkOrder scan.extraExcluded source.parent).filter fun path =>
    isUnreadable files path &&
      (isOther files (isNamed scan) source path && isSmall files scan path)

section Found

variable (lies : tree.LiesAt files source.parent)

include lies

theorem selects_candidates {keep : Path → Bool} {wanted : Path → Prop}
    (same : ∀ path, keep path = true ↔ wanted path) :
    Selects ((tree.walkOrder scan.extraExcluded source.parent).filter fun path =>
        keep path && (isOther files (isNamed scan) source path && isSmall files scan path))
      (tree.walkOrder scan.extraExcluded source.parent)
      (fun path => LiesBelow files scan.extraExcluded source.parent path ∧
        Named scan source path ∧ Small files scan path ∧ wanted path) := by
  apply filter_selects (Tree.walk_order_nodup lies.distinct)
  intro path
  rw [Tree.mem_walk_order_iff lies, Bool.and_eq_true, Bool.and_eq_true, same, is_small_iff]
  apply and_congr_right
  intro below
  rw [named_iff (Tree.resolve_file lies below), and_comm, and_assoc]

end Found

theorem found_mono (files : FileSystem) (scan : Settings.Scan) (source : Path) (tree : Tree)
    {symbols more : List String} (larger : ∀ symbol ∈ symbols, symbol ∈ more) :
    (found files scan source tree symbols).files.Sublist
      (found files scan source tree more).files := by
  apply List.monotone_filter_right
  intro path
  simp only [Bool.and_eq_true, is_downstream_iff]
  exact And.imp_left (IsDependent.mono larger)

theorem found_congr (files : FileSystem) (scan : Settings.Scan) (source : Path) (tree : Tree)
    {symbols other : List String} (same : ∀ symbol, symbol ∈ other ↔ symbol ∈ symbols) :
    found files scan source tree other = found files scan source tree symbols := by
  have dependent : isDownstream files source other = isDownstream files source symbols := by
    funext path
    rw [Bool.eq_iff_iff, is_downstream_iff, is_downstream_iff]
    exact ⟨IsDependent.mono fun symbol => (same symbol).mp,
      IsDependent.mono fun symbol => (same symbol).mpr⟩
  rw [found, dependent]
  rfl

end Scan

section Scanned

variable {files : FileSystem} {scan : Settings.Scan} {clock : Clock} {source here : Path}
  {tree : Tree} {changes : ChangeSet}

/-- The walk of a scan, from the directory of the source. -/
def sourceWalk (files : FileSystem) (scan : Settings.Scan) (here : Path) : Timed Walked :=
  walking (walkWith files scan) [here.parent] (judgeOther files scan (isNamed scan) here)

theorem scan_downstream_eq (leads : files.resolve source = .ok here)
    (broken : changes.isEmpty = false) :
    scanDownstream files scan source changes = (do
      let walked ← sourceWalk files scan here
      let downstream ←
        files.reals (walked.files.filter (isDownstream files here changes.symbols))
      return {
        files := distinctPaths downstream
        timedOut := walked.timedOut
        skipped := walked.files.filter (isUnreadable files) }) := by
  rw [scanDownstream, real_ok leads]
  simp only [lift_eq_told, told_ok_bind, broken, Bool.false_eq_true, if_false]
  rfl

variable (lies : tree.LiesAt files here.parent)

include lies

theorem unlinked_files (extra : List String) (keep : Path → Bool) :
    files.reals ((tree.walkOrder extra here.parent).filter keep) =
      .ok ((tree.walkOrder extra here.parent).filter keep) := by
  have leads : ∀ path ∈ (tree.walkOrder extra here.parent).filter keep,
      files.real path = .ok (id path) := by
    intro path member
    have below := (Tree.mem_walk_order_iff lies).mp (List.mem_of_mem_filter member)
    exact real_ok (Tree.resolve_file lies below)
  rw [FileSystem.reals, map_answers_ok leads, List.map_id]

theorem meets_tree :
    (walkWith files scan).meets [here.parent] = tree.walkOrder scan.extraExcluded here.parent :=
  Tree.met_tree lies 0

theorem mem_meets_tree (path : Path) :
    path ∈ (walkWith files scan).meets [here.parent] ↔ Within files scan [here.parent] path := by
  rw [meets_tree lies, within_singleton]
  exact Tree.mem_walk_order_iff lies

theorem tree_resolved (path : Path) (within : Within files scan [here.parent] path) :
    ∃ real, files.resolve path = .ok real :=
  ⟨path, Tree.resolve_file lies (within_singleton.mp within)⟩

variable (inTime : ((sourceWalk files scan here).run clock).stopped = false)

include inTime

theorem source_walk_clear (clear : ¬LimitInTheWay files scan here) :
    ∃ checks, (sourceWalk files scan here).run clock =
      ⟨.ok ⟨(tree.walkOrder scan.extraExcluded here.parent).filter fun path =>
          isOther files (isNamed scan) here path && isSmall files scan path, false, checks⟩,
        false, ((sourceWalk files scan here).run clock).clock⟩ := by
  obtain ⟨checks, answered⟩ := walking_clear (mem_meets_tree lies) (tree_resolved lies)
    (mt (limit_in_the_way_iff lies).mpr clear) inTime
  have order : (tree.walkOrder scan.extraExcluded here.parent).Nodup :=
    Tree.walk_order_nodup lies.distinct
  rw [meets_tree lies, distinct_paths_of_nodup (order.filter _)] at answered
  exact ⟨checks, Lapse.ext answered inTime rfl⟩

variable (leads : files.resolve source = .ok here) (broken : changes.isEmpty = false)

include leads broken

theorem scan_clear (clear : ¬LimitInTheWay files scan here) :
    (scanDownstream files scan source changes).run clock =
      ⟨.ok (found files scan here tree changes.symbols), false,
        ((sourceWalk files scan here).run clock).clock⟩ := by
  obtain ⟨checks, walked⟩ := source_walk_clear lies inTime clear
  rw [scan_downstream_eq leads broken, run_bind_ok walked]
  dsimp only
  rw [List.filter_filter, List.filter_filter, unlinked_files lies, lift_eq_told, told_ok_bind,
    run_pure]
  have order : (tree.walkOrder scan.extraExcluded here.parent).Nodup :=
    Tree.walk_order_nodup lies.distinct
  rw [distinct_paths_of_nodup (order.filter _)]
  rfl

theorem scan_in_the_way (inTheWay : LimitInTheWay files scan here) :
    ((scanDownstream files scan source changes).run clock).answer =
      .error (.limitUncountable (.ofFloat scan.sizeLimit)) := by
  have failed : ((sourceWalk files scan here).run clock).answer =
      .error (.limitUncountable (.ofFloat scan.sizeLimit)) :=
    walking_met (mem_meets_tree lies) (tree_resolved lies)
      ((limit_in_the_way_iff lies).mp inTheWay) inTime
  rw [scan_downstream_eq leads broken, run_bind_error (Lapse.ext failed inTime rfl)]

end Scanned

section Checked

variable {files : FileSystem} {scan : Settings.Scan} {clock : Clock} {source here : Path}
  {tree : Tree} {changes : ChangeSet}

/-- A scan of a tree that is not stopped finds the files that depend on a broken symbol or import
the source, and skips those that cannot be read. More symbols find more files, and their order does
not matter. A limit that is no number of bytes makes the scan fail as soon as a size is compared
with it. -/
theorem scan_finds_dependents (leads : files.resolve source = .ok here)
    (lies : tree.LiesAt files here.parent) (broken : changes.isEmpty = false)
    (inTime : ((scanDownstream files scan source changes).run clock).stopped = false) :
    (LimitInTheWay files scan here →
      ((scanDownstream files scan source changes).run clock).answer =
        .error (.limitUncountable (.ofFloat scan.sizeLimit))) ∧
    (¬LimitInTheWay files scan here →
      ∃ scanned later,
        (scanDownstream files scan source changes).run clock = ⟨.ok scanned, false, later⟩ ∧
        scanned.timedOut = false ∧
        Selects scanned.files (tree.walkOrder scan.extraExcluded here.parent)
          (fun path => LiesBelow files scan.extraExcluded here.parent path ∧
            Named scan here path ∧ Small files scan path ∧
            IsDependent files here changes.symbols path) ∧
        Selects scanned.skipped (tree.walkOrder scan.extraExcluded here.parent)
          (fun path => LiesBelow files scan.extraExcluded here.parent path ∧
            Named scan here path ∧ Small files scan path ∧ Unreadable files path) ∧
        (∀ more : ChangeSet, (∀ symbol ∈ changes.symbols, symbol ∈ more.symbols) →
          ∃ further,
            (scanDownstream files scan source more).run clock = ⟨.ok further, false, later⟩ ∧
            scanned.files.Sublist further.files) ∧
        (∀ other : ChangeSet, (∀ symbol, symbol ∈ other.symbols ↔ symbol ∈ changes.symbols) →
          (scanDownstream files scan source other).run clock =
            (scanDownstream files scan source changes).run clock)) := by
  have walkInTime : ((sourceWalk files scan here).run clock).stopped = false := by
    rw [scan_downstream_eq leads broken] at inTime
    exact not_stopped_first inTime
  refine ⟨scan_in_the_way lies walkInTime leads broken, ?_⟩
  intro clear
  obtain ⟨symbol, member⟩ := is_empty_eq_false_iff.mp broken
  refine ⟨_, _, scan_clear lies walkInTime leads broken clear, rfl, ?files, ?skipped, ?more, ?other⟩
  case files => exact selects_candidates lies fun path => is_downstream_iff
  case skipped => exact selects_candidates lies fun path => is_unreadable_iff
  case more =>
    intro more larger
    have broken : more.isEmpty = false := is_empty_eq_false_iff.mpr ⟨symbol, larger symbol member⟩
    exact ⟨_, scan_clear lies walkInTime leads broken clear, found_mono files scan _ tree larger⟩
  case other =>
    intro other same
    have otherBroken : other.isEmpty = false :=
      is_empty_eq_false_iff.mpr ⟨symbol, (same symbol).mpr member⟩
    rw [scan_clear lies walkInTime leads broken clear,
      scan_clear lies walkInTime leads otherBroken clear, found_congr files scan _ tree same]

end Checked

/-- A source with a caller beside it, a file that cannot be read, and a package. -/
def shop : FileSystem where
  read path :=
    if path.name == "legacy.ts" then .error (some "Permission denied") else .ok "price(1);".toList
  size _ := some 9
  listings :=
    let source : Path := ⟨.slash, ["proj", "src"]⟩
    [(source,
        [⟨"cart.ts", source.child "cart.ts", false⟩,
          ⟨"node_modules", source.child "node_modules", true⟩,
          ⟨"old", source.child "old", true⟩,
          ⟨"pricing.ts", source.child "pricing.ts", false⟩]),
      (source.child "node_modules",
        [⟨"dep.ts", (source.child "node_modules").child "dep.ts", false⟩]),
      (source.child "old", [⟨"legacy.ts", (source.child "old").child "legacy.ts", false⟩])]

def shopTree : Tree :=
  .file "cart.ts" (.folder "node_modules" (.file "dep.ts" .empty)
    (.folder "old" (.file "legacy.ts" .empty) (.file "pricing.ts" .empty)))

theorem shop_tree_lies : shopTree.LiesAt shop ⟨.slash, ["proj", "src"]⟩ := by
  refine ⟨by decide, ?_, ?_⟩
  · simp only [shopTree, Tree.Shown, and_true]
    decide
  · simp only [shopTree, Tree.Distinct, and_true]
    decide

theorem shop_source_leads :
    shop.resolve ⟨.slash, ["proj", "src", "pricing.ts"]⟩ =
      .ok ⟨.slash, ["proj", "src", "pricing.ts"]⟩ := by
  decide

theorem caller_found_and_legacy_skipped :
    let changes : ChangeSet := { functions := ["price"], status := .success }
    ∃ scanned later,
      (scanDownstream shop {} ⟨.slash, ["proj", "src", "pricing.ts"]⟩ changes).run ⟨fun _ => 0⟩ =
        ⟨.ok scanned, false, later⟩ ∧
      ⟨.slash, ["proj", "src", "cart.ts"]⟩ ∈ scanned.files ∧
      ⟨.slash, ["proj", "src", "old", "legacy.ts"]⟩ ∈ scanned.skipped ∧
      ⟨.slash, ["proj", "src", "node_modules", "dep.ts"]⟩ ∉ scanned.files := by
  intro changes
  have patient : ¬(0 : Float) + ({} : Settings.Scan).timeout < 0 := by decide +kernel
  have counted : ({} : Settings.Scan).byteLimit = some 5242880 := by decide +kernel
  have clear : ¬LimitInTheWay shop {} ⟨.slash, ["proj", "src", "pricing.ts"]⟩ := by
    rintro ⟨uncountable, -⟩
    rw [counted] at uncountable
    nomatch uncountable
  have small : ∀ path, Small shop {} path := by
    rintro path size ⟨⟩
    exact ⟨5242880, counted, by decide⟩
  have lies : shopTree.LiesAt shop ⟨.slash, ["proj", "src"]⟩ := shop_tree_lies
  have inTime := ((Stepwise.still shop patient).scan_downstream
    ⟨.slash, ["proj", "src", "pricing.ts"]⟩ changes).inTime
  obtain ⟨-, succeeds⟩ := scan_finds_dependents shop_source_leads lies rfl inTime
  obtain ⟨scanned, later, answered, -, files, skipped, -⟩ := succeeds clear
  refine ⟨scanned, later, answered, ?_, ?_, ?_⟩
  · apply (files.mem_iff _).mpr
    refine ⟨(Tree.mem_walk_order_iff lies).mp (by decide), ⟨by decide, "*.ts", by decide, ?_⟩,
      small _, "price(1);".toList, rfl, .mentions "price" ?_ ?_ ?_⟩
    · decide +kernel
    · decide
    · decide +kernel
    · decide +kernel
  · apply (skipped.mem_iff _).mpr
    refine ⟨(Tree.mem_walk_order_iff lies).mp (by decide), ⟨by decide, "*.ts", by decide, ?_⟩,
      small _, some "Permission denied", rfl⟩
    decide +kernel
  · intro member
    have inOrder := (Tree.mem_walk_order_iff lies).mpr ((files.mem_iff _).mp member).1
    revert inOrder
    decide

/-- A limit of 1e308 megabytes is finite and positive, but not as a number of bytes, so the first
candidate ends the scan. -/
theorem huge_limit_stops_scan :
    let scan : Settings.Scan := { sizeLimit := 1e308 }
    let changes : ChangeSet := { functions := ["price"], status := .success }
    scan.sizeLimit.isFinite = true ∧ 0 < scan.sizeLimit ∧
      ((scanDownstream shop scan ⟨.slash, ["proj", "src", "pricing.ts"]⟩ changes).run
          ⟨fun _ => 0⟩).answer =
        .error (.limitUncountable .infinite) := by
  intro scan changes
  have infinite : Uncountable.ofFloat scan.sizeLimit = .infinite := by decide +kernel
  have uncountable : scan.byteLimit = none := by decide +kernel
  have patient : ¬(0 : Float) + scan.timeout < 0 := by decide +kernel
  have lies : shopTree.LiesAt shop ⟨.slash, ["proj", "src"]⟩ := shop_tree_lies
  have inTime := ((Stepwise.still shop patient).scan_downstream
    ⟨.slash, ["proj", "src", "pricing.ts"]⟩ changes).inTime
  rw [scan_downstream_eq shop_source_leads rfl] at inTime
  refine ⟨by decide +kernel, by decide +kernel, ?_⟩
  rw [← infinite]
  apply scan_in_the_way lies (not_stopped_first inTime) shop_source_leads rfl
  refine ⟨uncountable, ⟨.slash, ["proj", "src", "cart.ts"]⟩,
    (Tree.mem_walk_order_iff lies).mp (by decide), ⟨by decide, "*.ts", by decide, ?_⟩, 9, rfl⟩
  decide +kernel

end Impact

end EditImpact
