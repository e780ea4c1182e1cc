import EditImpact.Proofs.Files.PathTexts
import EditImpact.Proofs.Files.Traversals

/-!
# Paths of names

An absolute path of proper names is told apart from all others by its text. In a located tree, all
places below such a path are paths like that.
-/

namespace EditImpact

set_option autoImplicit false

/-- A segment that can be the name of a file: it does not hold the character that ends names. -/
structure IsName (segment : String) : Prop extends IsSegment segment where
  noNul : '\x00' ∉ segment.toList

instance : DecidablePred IsName := fun segment =>
  decidable_of_iff (IsSegment segment ∧ '\x00' ∉ segment.toList)
    ⟨fun ⟨isSegment, noNul⟩ => ⟨isSegment, noNul⟩, fun name => ⟨name.toIsSegment, name.noNul⟩⟩

/-- An absolute path of names. -/
structure Path.Located (path : Path) : Prop where
  absolute : path.isAbsolute = true
  named : ∀ segment ∈ path.segments, IsName segment

namespace Path

variable {path : Path}

theorem Located.rooted (located : path.Located) : path.Rooted :=
  ⟨located.absolute, fun segment member => (located.named segment member).toIsSegment⟩

theorem to_string_injective {other : Path} (located : path.Located) (otherLocated : other.Located)
    (same : path.toString = other.toString) : path = other := by
  rw [← of_string_to_string located.rooted, same, of_string_to_string otherLocated.rooted]

theorem Located.child {name : String} (located : path.Located) (isName : IsName name) :
    (path.child name).Located := by
  refine ⟨located.absolute, ?_⟩
  intro segment member
  rcases List.mem_append.mp member with inside | last
  · exact located.named segment inside
  · exact List.mem_singleton.mp last ▸ isName

theorem Located.parent (located : path.Located) : path.parent.Located :=
  ⟨located.absolute, fun segment member => located.named segment (List.mem_of_mem_dropLast member)⟩

theorem Located.resolve (located : path.Located) : path.resolve.Located := by
  refine ⟨located.absolute, ?_⟩
  apply List.foldlRecOn (motive := fun segments => ∀ segment ∈ segments, IsName segment) _ stepInto
  · nofun
  · intro visited named next listed segment member
    unfold stepInto at member
    split at member
    · exact named segment (List.mem_of_mem_dropLast member)
    · rcases List.mem_append.mp member with earlier | last
      · exact named segment earlier
      · exact List.mem_singleton.mp last ▸ located.named next listed

/-- A path of names is no problem to resolve where there are no links. -/
theorem Located.resolve_lexically (located : path.Located) :
    Files.resolveLexically path = .ok path.resolve := by
  have plain : path.hasNul = false := by
    rw [hasNul, List.any_eq_false]
    intro segment member
    rw [List.contains_iff_mem]
    exact (located.named segment member).noNul
  rw [Files.resolveLexically, plain]
  rfl

theorem after_segments_subset {base segments rest : List String}
    (after : afterSegments? base segments = some rest) :
    ∀ segment ∈ rest, segment ∈ segments := by
  induction base generalizing segments with
  | nil =>
      cases after
      exact fun segment => id
  | cons first base induction =>
      cases segments with
      | nil => nomatch after
      | cons other segments =>
          rw [afterSegments?] at after
          split at after
          · exact fun segment member => List.mem_cons_of_mem _ (induction after segment member)
          · nomatch after

/-- What is left of a path below a directory has the names of the path. -/
theorem relative_to_segments {base rest : Path} (relative : path.relativeTo? base = some rest) :
    ∀ segment ∈ rest.segments, segment ∈ path.segments := by
  unfold relativeTo? at relative
  split at relative
  · obtain ⟨segments, after, rfl⟩ := Option.map_eq_some_iff.mp relative
    exact after_segments_subset after
  · nomatch relative

end Path

namespace Files

/-- A tree of directories whose entries have proper names, and where resolving leads to places of
proper names, if anywhere. -/
structure FileSystem.IsLocated (files : FileSystem) : Prop extends files.IsTree where
  names : ∀ directory, ∀ entry ∈ files.entries directory, IsName entry.name
  resolves : ∀ path real : Path, path.Located → files.resolve path = .ok real → real.Located

section Places

variable {files : FileSystem} {extra : List String} {root path : Path}

theorem FileSystem.IsLocated.entry (tree : files.IsLocated) {directory : Path} {entry : Entry}
    (located : directory.Located) (listed : entry ∈ files.entries directory) :
    entry.path.Located := by
  rw [tree.inside directory entry listed]
  exact located.child (tree.names directory entry listed)

theorem FileSystem.IsLocated.below (tree : files.IsLocated) (located : root.Located)
    (below : LiesBelow files extra root path) : path.Located := by
  obtain ⟨directory, reached, entry, inside, -, rfl⟩ := below
  have here : directory.Located := by
    clear inside
    induction reached with
    | root => exact located
    | folder _ listed _ _ induction => exact tree.entry induction listed
  exact tree.entry here inside

end Places

theorem MemoryTree.name_of_entry_below {directory path : Path} {entry : Entry}
    (shown : MemoryTree.entryBelow directory path = some entry) : entry.name ∈ path.segments := by
  unfold MemoryTree.entryBelow at shown
  split at shown
  · next name rest below =>
      cases shown
      obtain ⟨relative, lies, same⟩ := Option.map_eq_some_iff.mp below
      apply Path.relative_to_segments lies
      rw [same]
      exact List.mem_cons_self
  · nomatch shown

/-- Where resolving only takes out dots, names in the listings are enough. -/
theorem FileSystem.is_located_of_listings {files : FileSystem} (tree : files.IsTree)
    (plain : files.resolve = resolveLexically)
    (named : ∀ listing ∈ files.listings, ∀ entry ∈ listing.2, IsName entry.name) :
    files.IsLocated := by
  refine ⟨tree, ?names, ?resolves⟩
  case names =>
    intro directory entry member
    rcases files.entries_listed directory with nothing | listing
    · rw [nothing] at member
      nomatch member
    · exact named _ listing entry member
  case resolves =>
    intro path real located leads
    rw [plain, located.resolve_lexically] at leads
    cases leads
    exact located.resolve

/-- A tree in memory is located if its files are. -/
theorem MemoryTree.is_located {tree : MemoryTree} (located : ∀ file ∈ tree, file.1.Located) :
    tree.fileSystem.IsLocated := by
  apply FileSystem.is_located_of_listings tree.is_tree rfl
  intro listing member entry listed
  obtain ⟨directory, -, rfl⟩ := List.mem_map.mp member
  obtain ⟨file, inTree, shown⟩ := mem_entries_of listed
  exact (located file inTree).named entry.name (name_of_entry_below shown)

end Files

end EditImpact
