import EditImpact.Files.Path
import EditImpact.Proofs.Source.Words

/-!
# Paths that are read back from their texts

What a text is read as is a path of segments, and an absolute path of segments is read back from its
text (`Path.of_string_to_string`).
-/

namespace EditImpact

set_option autoImplicit false

/-- A segment that is neither empty nor a dot and has no slash in it. -/
structure IsSegment (segment : String) : Prop where
  filled : segment ≠ ""
  noDot : segment ≠ "."
  noSlash : '/' ∉ segment.toList

instance : DecidablePred IsSegment := fun segment =>
  decidable_of_iff (segment ≠ "" ∧ segment ≠ "." ∧ '/' ∉ segment.toList)
    ⟨fun ⟨filled, noDot, noSlash⟩ => ⟨filled, noDot, noSlash⟩,
      fun ⟨filled, noDot, noSlash⟩ => ⟨filled, noDot, noSlash⟩⟩

/-- An absolute path of segments. -/
structure Path.Rooted (path : Path) : Prop where
  absolute : path.isAbsolute = true
  each : ∀ segment ∈ path.segments, IsSegment segment

namespace Path

variable {path : Path}

theorem segments_of_append (left right : List Char) :
    segmentsOf (left ++ '/' :: right) = segmentsOf left ++ segmentsOf right := by
  have split := @Source.split_by_append (· == '/') '/' (beq_self_eq_true '/') left right
  rw [segmentsOf, split, List.map_append, List.filter_append]
  rfl

theorem segments_of_segment {segment : String} (proper : IsSegment segment) :
    segmentsOf segment.toList = [segment] := by
  have whole : ∀ c ∈ segment.toList, (c == '/') = false := by
    intro c member
    exact beq_eq_false_iff_ne.mpr fun same => proper.noSlash (same ▸ member)
  rw [segmentsOf, Source.split_by_whole whole]
  simp [proper.filled, proper.noDot]

theorem segments_of_joined {segments : List String}
    (each : ∀ segment ∈ segments, IsSegment segment) :
    segmentsOf (joined segments).toList = segments := by
  induction segments with
  | nil => rfl
  | cons first others induction =>
      obtain ⟨proper, properLater⟩ := List.forall_mem_cons.mp each
      cases others with
      | nil => exact segments_of_segment proper
      | cons second others =>
          have split : (joined (first :: second :: others)).toList =
              first.toList ++ '/' :: (joined (second :: others)).toList := by
            simp [joined, String.intercalate_cons_cons]
          rw [split, segments_of_append, segments_of_segment proper, induction properLater]
          rfl

theorem joined_begins {segments : List String} (each : ∀ segment ∈ segments, IsSegment segment) :
    (joined segments).toList.head? ≠ some '/' := by
  have begins {segment : String} (proper : IsSegment segment) (rest : List Char) :
      (segment.toList ++ rest).head? ≠ some '/' := by
    have filled : segment.toList ≠ [] := mt String.toList_eq_nil_iff.mp proper.filled
    obtain ⟨c, chars, same⟩ := List.exists_cons_of_ne_nil filled
    rw [same, List.cons_append, List.head?_cons]
    rintro ⟨⟩
    exact proper.noSlash (same ▸ List.mem_cons_self)
  cases segments with
  | nil => decide
  | cons first others =>
      have proper := each first List.mem_cons_self
      cases others with
      | nil => simpa [joined] using begins proper []
      | cons second others =>
          rw [joined, String.intercalate_cons_cons, String.append_assoc, String.toList_append]
          exact begins proper _

theorem root_of_text {root : PathRoot} (absolute : root ≠ .relative) {rest : List Char}
    (begins : rest.head? ≠ some '/') : rootOf (root.text.toList ++ rest) = root := by
  cases rest with
  | nil => cases root <;> rfl
  | cons c rest =>
      have other : c ≠ '/' := by
        rintro rfl
        exact begins rfl
      cases root with
      | relative => contradiction
      | slash => simp [PathRoot.text, rootOf, other]
      | doubleSlash => simp [PathRoot.text, rootOf, other]

theorem segments_of_text (root : PathRoot) (rest : List Char) :
    segmentsOf (root.text.toList ++ rest) = segmentsOf rest := by
  have slash (rest : List Char) : segmentsOf ('/' :: rest) = segmentsOf rest :=
    segments_of_append [] rest
  cases root with
  | relative => rfl
  | slash => exact slash rest
  | doubleSlash => exact (slash ('/' :: rest)).trans (slash rest)

/-- What stands between the slashes of a text are segments. -/
theorem of_string_segments (text : String) :
    ∀ segment ∈ (ofString text).segments, IsSegment segment := by
  intro segment member
  obtain ⟨listed, kept⟩ := List.mem_filter.mp member
  obtain ⟨piece, inside, rfl⟩ := List.mem_map.mp listed
  rw [Bool.and_eq_true, bne_iff_ne, bne_iff_ne] at kept
  refine ⟨kept.1, kept.2, ?_⟩
  intro slash
  rw [String.toList_ofList] at slash
  exact absurd (Source.split_by_pieces inside _ slash) (by decide)

/-- The text of a path says where it is. -/
theorem of_string_to_string (rooted : path.Rooted) : ofString path.toString = path := by
  have absolute : path.root ≠ .relative := bne_iff_ne.mp rooted.absolute
  have text : path.toString.toList = path.root.text.toList ++ (joined path.segments).toList := by
    rw [toString, if_neg, String.toList_append]
    simp [absolute]
  rw [ofString, text, root_of_text absolute (joined_begins rooted.each), segments_of_text,
    segments_of_joined rooted.each]

end Path

end EditImpact
