import EditImpact.Impact.TestSearch
import EditImpact.Proofs.Files.Located
import EditImpact.Proofs.Impact.Limits
import EditImpact.Proofs.Impact.Walks

/-!
# Searches for tests

A search for the tests of a source finds each of them once, the nearer ones first, and the search
for tests by their names finds no others (`tests_found_in_order`). As a scan for dependent files, it
fails over a size limit that is no number of bytes when a size has to be compared with it.
-/

namespace EditImpact.Impact

open Files Timed

set_option autoImplicit false

/-- Nearer to the source, or as near with an earlier text. -/
def Nearer (directory root first second : Path) : Prop :=
  proximity directory root first < proximity directory root second ∨
    proximity directory root first = proximity directory root second ∧
      first.toString < second.toString

/-- What a small test file below one of the roots leads to, if it has to do with the source. -/
def IsTestOf (files : FileSystem) (scan : Settings.Scan) (source : Path) (roots : List Path)
    (symbols : List String) (path : Path) : Prop :=
  ∃ place, Within files scan roots place ∧ isOther files (isNamedTest scan) source place = true ∧
    Small files scan place ∧ files.resolve place = .ok path ∧
      isRelated files source symbols path = true

/-! ## The order -/

section Order

variable {directory root : Path}

theorem comes_before_iff {first second : Path} :
    comesBefore directory root first second = true ↔
      proximity directory root first < proximity directory root second ∨
        proximity directory root first = proximity directory root second ∧
          first.toString ≤ second.toString := by
  simp [comesBefore]

theorem comes_before_trans (first second third : Path)
    (before : comesBefore directory root first second = true)
    (behind : comesBefore directory root second third = true) :
    comesBefore directory root first third = true := by
  rw [comes_before_iff] at before behind ⊢
  rcases before with nearer | ⟨same, earlier⟩
  · left
    rcases behind with further | ⟨same, -⟩
    · exact Nat.lt_trans nearer further
    · exact same ▸ nearer
  · rw [same]
    exact behind.imp_right fun ⟨again, later⟩ => ⟨again, String.le_trans earlier later⟩

theorem comes_before_total (first second : Path) :
    (comesBefore directory root first second ||
      comesBefore directory root second first) = true := by
  rw [Bool.or_eq_true, comes_before_iff, comes_before_iff]
  rcases Nat.lt_trichotomy (proximity directory root first) (proximity directory root second) with
    nearer | same | further
  · exact .inl (.inl nearer)
  · exact (String.le_total first.toString second.toString).imp (.inr ⟨same, ·⟩)
      (.inr ⟨same.symm, ·⟩)
  · exact .inr (.inl further)

/-- Different paths of names are put into a strict order. -/
theorem sorted_nearer {paths : List Path} (once : paths.Nodup)
    (located : ∀ path ∈ paths, path.Located) :
    (paths.mergeSort (comesBefore directory root)).Pairwise (Nearer directory root) := by
  have sorted := List.pairwise_mergeSort comes_before_trans
    (@comes_before_total directory root) paths
  have distinct : (paths.mergeSort (comesBefore directory root)).Nodup :=
    (List.mergeSort_perm _ _).nodup_iff.mpr once
  apply (sorted.and distinct).imp_of_mem
  intro first second inFirst inSecond ⟨before, other⟩
  apply (comes_before_iff.mp before).imp_right
  rintro ⟨same, earlier⟩
  refine ⟨same, Std.lt_of_le_of_ne earlier fun text => other ?_⟩
  exact Path.to_string_injective (located first (List.mem_mergeSort.mp inFirst))
    (located second (List.mem_mergeSort.mp inSecond)) text

end Order

/-! ## The searches -/

section Search

variable {files : FileSystem} {scan : Settings.Scan} {clock : Clock} {source here top path : Path}
  {root : Option Path} {symbols : List String}

/-- The directory of the source and the root, of which one is walked only if they are the same. -/
theorem mem_search_roots {directory top root : Path} :
    root ∈ (if directory == top then [directory] else [directory, top]) ↔
      root ∈ [directory, top] := by
  split
  · next same => simp [eq_of_beq same]
  · exact Iff.rfl

theorem is_related_mono {more : List String} (larger : ∀ symbol ∈ symbols, symbol ∈ more)
    (related : isRelated files source symbols path = true) :
    isRelated files source more path = true := by
  unfold isRelated at related ⊢
  rw [Bool.or_eq_true] at related ⊢
  refine related.imp_right fun content => ?_
  split at content
  · exact content
  · rw [Bool.or_eq_true, Bool.or_eq_true, List.any_eq_true] at content ⊢
    rcases content with (imported | ⟨symbol, listed, mentioned⟩) | placed
    · exact .inl (.inl imported)
    · exact .inl (.inr ⟨symbol, larger symbol listed, mentioned⟩)
    · exact .inr placed

/-- A test that is named after the source has to do with it, whatever it contains. -/
theorem is_related_of_name (named : namesSource path.name source.stem = true) :
    isRelated files source symbols path = true := by
  rw [isRelated, named, Bool.true_or]

theorem IsTestOf.mono {more : List String} {roots : List Path}
    (larger : ∀ symbol ∈ symbols, symbol ∈ more)
    (found : IsTestOf files scan source roots symbols path) :
    IsTestOf files scan source roots more path := by
  obtain ⟨place, within, named, small, leads, related⟩ := found
  exact ⟨place, within, named, small, leads, is_related_mono larger related⟩

/-- The walk of a search for tests, below the directory of the source and the root. -/
def testWalk (files : FileSystem) (scan : Settings.Scan) (here top : Path) : Timed Walked :=
  walking (walkWith files scan) (if here.parent == top then [here.parent] else [here.parent, top])
    (judgeOther files scan (isNamedTest scan) here)

theorem find_tests_eq (leads : files.resolve source = .ok here)
    (toTop : files.resolve (root.getD here.parent) = .ok top) :
    findTests files scan source root symbols = (do
      let walked ← testWalk files scan here top
      let found ← files.reals walked.files
      return (distinctPaths (found.filter (isRelated files here symbols))).mergeSort
        (comesBefore here.parent top)) := by
  rw [findTests, real_ok leads]
  simp only [lift_eq_told, told_ok_bind]
  rw [real_ok toTop]
  simp only [told_ok_bind]
  rfl

/-- Small files with the name of a test. -/
def testPlaces (files : FileSystem) (scan : Settings.Scan) (here : Path) (roots : List Path) :
    List Path :=
  ((walkWith files scan).meets roots).filter fun path =>
    isOther files (isNamedTest scan) here path && isSmall files scan path

theorem mem_test_places (tree : files.IsTree) {roots : List Path} :
    path ∈ distinctPaths (testPlaces files scan here roots) ↔ Within files scan roots path ∧
      isOther files (isNamedTest scan) here path = true ∧ Small files scan path := by
  rw [mem_distinct_paths, testPlaces, List.mem_filter, Walk.mem_meets_iff tree, Bool.and_eq_true,
    is_small_iff]
  rfl

theorem reals_of_places {places : List Path}
    (resolved : ∀ place ∈ places, ∃ real, files.resolve place = .ok real) :
    ∃ found, files.reals places = .ok found ∧
      ∀ path, path ∈ found ↔ ∃ place ∈ places, files.resolve place = .ok path := by
  have leads : ∀ place ∈ places, ∃ real, files.real place = .ok real :=
    fun place member => (resolved place member).imp fun real => real_ok
  obtain ⟨found, answered⟩ := map_answers_exist leads
  refine ⟨found, answered, fun path => ?_⟩
  rw [mem_of_map_answers answered]
  simp only [real_eq_ok_iff]

theorem mem_sorted_tests {found : List Path} :
    path ∈ (distinctPaths (found.filter (isRelated files here symbols))).mergeSort
        (comesBefore here.parent top) ↔
      path ∈ found ∧ isRelated files here symbols path = true := by
  rw [List.mem_mergeSort, mem_distinct_paths, List.mem_filter]

section Found

variable (tree : files.IsTree)
  (resolved : ∀ path, Within files scan [here.parent, top] path →
    ∃ real, files.resolve path = .ok real)
  (inTime : ((testWalk files scan here top).run clock).stopped = false)

include tree resolved inTime

theorem test_walk_met
    (met : LimitMet files scan [here.parent, top] (isOther files (isNamedTest scan) here)) :
    ((testWalk files scan here top).run clock).answer =
      .error (.limitUncountable (.ofFloat scan.sizeLimit)) :=
  walking_met (fun _ => Walk.mem_meets_iff tree)
    (fun path within => resolved path ((within_congr fun _ => mem_search_roots).mp within))
    (met.wider fun _ => mem_search_roots.mpr) inTime

/-- What both searches have in common: the tests that lie where they look. -/
theorem test_walk_clear
    (clear : ¬LimitMet files scan [here.parent, top] (isOther files (isNamedTest scan) here)) :
    ∃ walked found, (testWalk files scan here top).run clock =
        ⟨.ok walked, false, ((testWalk files scan here top).run clock).clock⟩ ∧
      files.reals walked.files = .ok found ∧
      ∀ path, path ∈ found ↔ ∃ place, Within files scan [here.parent, top] place ∧
        isOther files (isNamedTest scan) here place = true ∧ Small files scan place ∧
        files.resolve place = .ok path := by
  obtain ⟨checks, answered⟩ := walking_clear (fun _ => Walk.mem_meets_iff tree)
    (fun path within => resolved path ((within_congr fun _ => mem_search_roots).mp within))
    (fun met => clear (met.wider fun _ => mem_search_roots.mp)) inTime
  have places (place : Path) : place ∈ distinctPaths (testPlaces files scan here
      (if here.parent == top then [here.parent] else [here.parent, top])) ↔
      Within files scan [here.parent, top] place ∧
        isOther files (isNamedTest scan) here place = true ∧ Small files scan place := by
    rw [mem_test_places tree, within_congr fun _ => mem_search_roots]
  obtain ⟨found, reals, mem_iff⟩ := reals_of_places fun place member =>
    resolved place ((places place).mp member).1
  refine ⟨_, found, Lapse.ext answered inTime rfl, reals, fun path => ?_⟩
  simp only [mem_iff, places, and_assoc]

end Found

theorem find_tests_met (tree : files.IsTree) (leads : files.resolve source = .ok here)
    (toTop : files.resolve (root.getD here.parent) = .ok top)
    (resolved : ∀ path, Within files scan [here.parent, top] path →
      ∃ real, files.resolve path = .ok real)
    (inTime : ((findTests files scan source root symbols).run clock).stopped = false)
    (met : LimitMet files scan [here.parent, top] (isOther files (isNamedTest scan) here)) :
    ((findTests files scan source root symbols).run clock).answer =
      .error (.limitUncountable (.ofFloat scan.sizeLimit)) := by
  rw [find_tests_eq leads toTop] at inTime ⊢
  have walkInTime := not_stopped_first inTime
  have failed := test_walk_met tree resolved walkInTime met
  rw [run_bind_error (Lapse.ext failed walkInTime rfl)]

theorem find_tests_clear (leads : files.resolve source = .ok here)
    (toTop : files.resolve (root.getD here.parent) = .ok top) {walked : Walked} {later : Clock}
    {found : List Path} (walk : (testWalk files scan here top).run clock = ⟨.ok walked, false, later⟩)
    (reals : files.reals walked.files = .ok found) (symbols : List String) :
    (findTests files scan source root symbols).run clock =
      ⟨.ok ((distinctPaths (found.filter (isRelated files here symbols))).mergeSort
        (comesBefore here.parent top)), false, later⟩ := by
  rw [find_tests_eq leads toTop, run_bind_ok walk, reals, lift_eq_told, told_ok_bind, run_pure]
  rfl

theorem mem_nearby_iff (tree : files.IsTree) (leads : files.resolve source = .ok here)
    (resolved : ∀ path, Within files scan [here.parent] path → ∃ real, files.resolve path = .ok real)
    (inTime : ((nearbyTests files scan source).run clock).stopped = false)
    (clear : ¬LimitMet files scan [here.parent] (isOther files (isNamedTest scan) here)) :
    ∃ near later, (nearbyTests files scan source).run clock = ⟨.ok near, false, later⟩ ∧
      ∀ path, path ∈ near ↔ ∃ place, Within files scan [here.parent] place ∧
        isOther files (isNamedTest scan) here place = true ∧ Small files scan place ∧
        namesSource place.name here.stem = true ∧ files.resolve place = .ok path := by
  let judge (path : Path) : Except Failure Bool := do
    let candidate ← judgeOther files scan (isNamedTest scan) here path
    return candidate && namesSource path.name here.stem
  let walk : Timed Walked := walking (walkWith files scan) [here.parent] judge
  have searching : nearbyTests files scan source =
      walk >>= fun walked => told (files.reals walked.files) := by
    rw [nearbyTests, real_ok leads]
    simp only [lift_eq_told, told_ok_bind]
    rfl
  have meets (path : Path) : path ∈ (walkWith files scan).meets [here.parent] ↔
      Within files scan [here.parent] path := Walk.mem_meets_iff tree
  let wanted (path : Path) : Bool :=
    isOther files (isNamedTest scan) here path && isSmall files scan path &&
      namesSource path.name here.stem
  have judged : judgeFiles judge ((walkWith files scan).meets [here.parent]) =
      .ok (((walkWith files scan).meets [here.parent]).filter wanted) := by
    apply judge_files_ok
    intro path member
    have within := (meets path).mp member
    obtain ⟨real, found⟩ := resolved path within
    simp only [judge, judge_other_clear clear found within]
    rfl
  rw [searching] at inTime ⊢
  have walkInTime : (walk.run clock).stopped = false := not_stopped_first inTime
  have answered := walking_in_time walkInTime
  rw [judged] at answered
  have places (place : Path) :
      place ∈ distinctPaths (((walkWith files scan).meets [here.parent]).filter wanted) ↔
        Within files scan [here.parent] place ∧
          isOther files (isNamedTest scan) here place = true ∧ Small files scan place ∧
          namesSource place.name here.stem = true := by
    rw [mem_distinct_paths, List.mem_filter, meets, Bool.and_eq_true, Bool.and_eq_true,
      is_small_iff, and_assoc]
  obtain ⟨near, reals, mem_iff⟩ := reals_of_places fun place member =>
    resolved place ((places place).mp member).1
  refine ⟨near, (walk.run clock).clock, ?_, fun path => ?_⟩
  · rw [run_bind_ok (Lapse.ext answered walkInTime rfl), reals]
    rfl
  · simp only [mem_iff, places, and_assoc]

theorem located_of_within (tree : files.IsLocated) (hereLocated : here.Located)
    (topLocated : top.Located) {place : Path} (leads : files.resolve place = .ok path)
    (within : Within files scan [here.parent, top] place) : path.Located := by
  obtain ⟨root, listed, below⟩ := within
  apply tree.resolves place path _ leads
  apply tree.below _ below
  rcases List.mem_pair.mp listed with rfl | rfl
  · exact hereLocated.parent
  · exact topLocated

/-- Tests are not found where the source is. -/
theorem IsTestOf.ne {roots : List Path} (found : IsTestOf files scan here roots symbols path) :
    path ≠ here := by
  obtain ⟨place, -, named, -, leads, -⟩ := found
  rw [isOther, leads, Bool.and_eq_true, bne_iff_ne] at named
  exact named.1

/-- A search for tests that is not stopped finds them once each, in a strict order and without the
source. More symbols find more tests, and the tests that the search by names finds are among them,
unless a link hides the name. A limit that is no number of bytes makes the search fail as soon as a
size is compared with it. -/
theorem tests_found_in_order (tree : files.IsLocated) (sourceLocated : source.Located)
    (rootLocated : ∀ given, root = some given → given.Located)
    (leads : files.resolve source = .ok here)
    (toTop : files.resolve (root.getD here.parent) = .ok top)
    (resolved : ∀ path, Within files scan [here.parent, top] path →
      ∃ real, files.resolve path = .ok real)
    (inTime : ((findTests files scan source root symbols).run clock).stopped = false) :
    let limitMet :=
      LimitMet files scan [here.parent, top] (isOther files (isNamedTest scan) here)
    (limitMet → ((findTests files scan source root symbols).run clock).answer =
      .error (.limitUncountable (.ofFloat scan.sizeLimit))) ∧
    (¬limitMet → ∃ found later,
      (findTests files scan source root symbols).run clock = ⟨.ok found, false, later⟩ ∧
      found.Nodup ∧ found.Pairwise (Nearer here.parent top) ∧
      (∀ path ∈ found, path.isAbsolute = true ∧ path ≠ here) ∧
      (∀ path, path ∈ found ↔ IsTestOf files scan here [here.parent, top] symbols path) ∧
      (∀ more, (∀ symbol ∈ symbols, symbol ∈ more) →
        ∃ further,
          (findTests files scan source root more).run clock = ⟨.ok further, false, later⟩ ∧
          ∀ path ∈ found, path ∈ further) ∧
      ∀ again, ((nearbyTests files scan source).run again).stopped = false →
        ∃ near after, (nearbyTests files scan source).run again = ⟨.ok near, false, after⟩ ∧
          (∀ path ∈ near, path ∈ found ↔ isRelated files here symbols path = true) ∧
          ((∀ place, LiesBelow files scan.extraExcluded here.parent place →
            ∀ real, files.resolve place = .ok real → real.name = place.name) →
              ∀ path ∈ near, path ∈ found)) := by
  intro limitMet
  have walkInTime : ((testWalk files scan here top).run clock).stopped = false := by
    rw [find_tests_eq leads toTop] at inTime
    exact not_stopped_first inTime
  refine ⟨find_tests_met tree.toIsTree leads toTop resolved inTime, ?_⟩
  intro clear
  obtain ⟨walked, candidates, walk, reals, mem_candidates⟩ :=
    test_walk_clear tree.toIsTree resolved walkInTime clear
  let search (symbols : List String) : List Path :=
    (distinctPaths (candidates.filter (isRelated files here symbols))).mergeSort
      (comesBefore here.parent top)
  have answered (symbols : List String) :
      (findTests files scan source root symbols).run clock = ⟨.ok (search symbols), false, _⟩ :=
    find_tests_clear leads toTop walk reals symbols
  have mem_iff (symbols : List String) (path : Path) :
      path ∈ search symbols ↔ IsTestOf files scan here [here.parent, top] symbols path := by
    rw [mem_sorted_tests, mem_candidates]
    simp only [IsTestOf, exists_and_right, ← and_assoc]
  have hereLocated : here.Located := tree.resolves source here sourceLocated leads
  have topLocated : top.Located := by
    apply tree.resolves _ top _ toTop
    cases root with
    | none => exact hereLocated.parent
    | some given => exact rootLocated given rfl
  have located (path : Path) (member : path ∈ candidates) : path.Located := by
    obtain ⟨place, within, -, -, found⟩ := (mem_candidates path).mp member
    exact located_of_within tree hereLocated topLocated found within
  refine ⟨search symbols, _, answered symbols, ?once, ?sorted, ?places, mem_iff symbols, ?more,
    ?nearby⟩
  case once => exact (List.mergeSort_perm _ _).nodup_iff.mpr (distinct_paths_nodup _)
  case sorted =>
    apply sorted_nearer (distinct_paths_nodup _)
    intro path member
    exact located path (List.mem_of_mem_filter (mem_distinct_paths.mp member))
  case places =>
    intro path member
    exact ⟨(located path (mem_sorted_tests.mp member).1).absolute, ((mem_iff symbols path).mp member).ne⟩
  case more =>
    intro more larger
    refine ⟨search more, answered more, ?_⟩
    intro path member
    exact (mem_iff more path).mpr (((mem_iff symbols path).mp member).mono larger)
  case nearby =>
    intro again inTimeNearby
    obtain ⟨near, after, searched, mem_near⟩ := mem_nearby_iff tree.toIsTree leads
      (fun path within => resolved path (within.wider (by simp))) inTimeNearby
      (fun met => clear (met.wider (by simp)))
    have related_iff : ∀ path ∈ near,
        (path ∈ search symbols ↔ isRelated files here symbols path = true) := by
      intro path member
      obtain ⟨place, within, named, small, -, found⟩ := (mem_near path).mp member
      rw [mem_sorted_tests]
      exact and_iff_right ((mem_candidates path).mpr
        ⟨place, within.wider (by simp), named, small, found⟩)
    refine ⟨near, after, searched, related_iff, ?_⟩
    intro unlinked path member
    obtain ⟨place, within, -, -, names, found⟩ := (mem_near path).mp member
    apply (related_iff path member).mpr
    apply is_related_of_name
    rw [unlinked place (within_singleton.mp within) path found]
    exact names

end Search

/-- A source with a test beside it and one in a directory of tests. -/
def testedShop : FileSystem where
  read _ := .ok "price(1);".toList
  size _ := some 9
  listings :=
    let top : Path := ⟨.slash, ["proj"]⟩
    [(top, [⟨"src", top.child "src", true⟩, ⟨"tests", top.child "tests", true⟩]),
      (top.child "src",
        [⟨"pricing.test.ts", (top.child "src").child "pricing.test.ts", false⟩,
          ⟨"pricing.ts", (top.child "src").child "pricing.ts", false⟩]),
      (top.child "tests", [⟨"cart.test.ts", (top.child "tests").child "cart.test.ts", false⟩])]

theorem tested_shop_located : testedShop.IsLocated := by
  apply FileSystem.is_located_of_listings
  · apply FileSystem.is_tree_of_listings
    decide
  · rfl
  · decide

theorem pricing_located : (⟨.slash, ["proj", "src", "pricing.ts"]⟩ : Path).Located :=
  ⟨rfl, by decide⟩

theorem pricing_leads :
    testedShop.resolve ⟨.slash, ["proj", "src", "pricing.ts"]⟩ =
      .ok ⟨.slash, ["proj", "src", "pricing.ts"]⟩ := by
  decide

theorem tested_shop_resolved {scan : Settings.Scan} {roots : List Path}
    (located : ∀ root ∈ roots, root.Located) (path : Path)
    (within : Within testedShop scan roots path) :
    ∃ real, testedShop.resolve path = .ok real := by
  obtain ⟨root, listed, below⟩ := within
  exact ⟨path.resolve, (tested_shop_located.below (located root listed) below).resolve_lexically⟩

theorem pricing_test_beside :
    LiesBelow testedShop [] ⟨.slash, ["proj", "src"]⟩
      ⟨.slash, ["proj", "src", "pricing.test.ts"]⟩ := by
  refine ⟨_, .root, ⟨"pricing.test.ts", ⟨.slash, ["proj", "src", "pricing.test.ts"]⟩, false⟩, ?_,
    rfl, rfl⟩
  decide

theorem named_and_mentioning_tests_found :
    let top : Path := ⟨.slash, ["proj"]⟩
    let source : Path := ⟨.slash, ["proj", "src", "pricing.ts"]⟩
    ∃ found later, (findTests testedShop {} source (some top) ["price"]).run ⟨fun _ => 0⟩ =
        ⟨.ok found, false, later⟩ ∧
      ⟨.slash, ["proj", "src", "pricing.test.ts"]⟩ ∈ found ∧
      ⟨.slash, ["proj", "tests", "cart.test.ts"]⟩ ∈ found ∧ source ∉ found := by
  intro top source
  have patient : ¬(0 : Float) + ({} : Settings.Scan).timeout < 0 := by decide +kernel
  have counted : ({} : Settings.Scan).byteLimit = some 5242880 := by decide +kernel
  have clear : ¬LimitMet testedShop {} [source.parent, top]
      (isOther testedShop (isNamedTest {}) source) := by
    rintro ⟨uncountable, -⟩
    rw [counted] at uncountable
    nomatch uncountable
  have small : ∀ path, Small testedShop {} path := by
    rintro path size ⟨⟩
    exact ⟨5242880, counted, by decide⟩
  have rooted : ∀ given, some top = some given → given.Located := by
    rintro _ ⟨⟩
    exact ⟨rfl, by decide⟩
  have located : ∀ root ∈ [source.parent, top], root.Located := by
    intro root listed
    rcases List.mem_pair.mp listed with rfl | rfl
    · exact pricing_located.parent
    · exact rooted _ rfl
  have elsewhere : LiesBelow testedShop [] top ⟨.slash, ["proj", "tests", "cart.test.ts"]⟩ := by
    have tests : Reaches testedShop [] top (top.child "tests") :=
      @Reaches.folder _ _ _ _ ⟨"tests", top.child "tests", true⟩ .root (by decide) rfl (by decide)
    refine ⟨_, tests, ⟨"cart.test.ts", (top.child "tests").child "cart.test.ts", false⟩, ?_, rfl,
      rfl⟩
    decide
  obtain ⟨-, succeeds⟩ :=
    tests_found_in_order tested_shop_located pricing_located rooted pricing_leads
      (by decide : testedShop.resolve top = .ok top) (tested_shop_resolved located)
      ((Stepwise.still testedShop patient).find_tests source (some top) ["price"]).inTime
  obtain ⟨found, later, answered, -, -, places, mem_iff, -, -⟩ := succeeds clear
  refine ⟨found, later, answered, ?named, ?mentions, fun member => (places source member).2 rfl⟩
  case named =>
    apply (mem_iff _).mpr
    refine ⟨_, ⟨source.parent, List.mem_cons_self, pricing_test_beside⟩, ?_, small _, rfl, ?_⟩
    · decide +kernel
    · decide +kernel
  case mentions =>
    apply (mem_iff _).mpr
    refine ⟨_, ⟨top, List.mem_cons_of_mem _ List.mem_cons_self, elsewhere⟩, ?_, small _, rfl, ?_⟩
    · decide +kernel
    · decide +kernel

/-- A limit of 1e308 megabytes is finite and positive, but not as a number of bytes, so the first
test ends the search. -/
theorem huge_limit_stops_test_search :
    let scan : Settings.Scan := { sizeLimit := 1e308 }
    let source : Path := ⟨.slash, ["proj", "src", "pricing.ts"]⟩
    scan.sizeLimit.isFinite = true ∧ 0 < scan.sizeLimit ∧
      ((findTests testedShop scan source none ["price"]).run ⟨fun _ => 0⟩).answer =
        .error (.limitUncountable .infinite) := by
  intro scan source
  have infinite : Uncountable.ofFloat scan.sizeLimit = .infinite := by decide +kernel
  have uncountable : scan.byteLimit = none := by decide +kernel
  have patient : ¬(0 : Float) + scan.timeout < 0 := by decide +kernel
  have toTop : testedShop.resolve ((none : Option Path).getD source.parent) =
      .ok source.parent := by
    decide
  have located : ∀ root ∈ [source.parent, source.parent], root.Located := by
    intro root listed
    rcases List.mem_pair.mp listed with rfl | rfl <;> exact pricing_located.parent
  have inTime :=
    ((Stepwise.still testedShop patient).find_tests source none ["price"]).inTime
  refine ⟨by decide +kernel, by decide +kernel, ?_⟩
  rw [← infinite]
  apply find_tests_met tested_shop_located.toIsTree pricing_leads toTop
    (tested_shop_resolved located) inTime
  refine ⟨uncountable, _, ⟨source.parent, List.mem_cons_self, pricing_test_beside⟩, ?_, 9, rfl⟩
  decide +kernel

end EditImpact.Impact
