import EditImpact.Proofs.Pattern.Horizon
import EditImpact.Proofs.Signature.GapTails
import EditImpact.Proofs.Source.Parentheses

/-!
# Edits of a body leave the signature

What is read of a function is its header, the parameters and the text up to what ends the return
type. Where all this lies three characters in front of the end of a text, the signature is found,
and no text that follows changes it (`signature_ignores_later_text`): comments and strings are told
by looking two characters ahead, the header is found in front of its parenthesis, and both searches
behind it end within the text.
-/

namespace EditImpact.Signature

open Pattern Source Text

set_option autoImplicit false

section Tails

variable {text other : List Char}

/-- The last character that is read of what follows the parameters and the blanks behind them: the
first one of what ends the return type, or the very first one if there is no return type. -/
def lastRead (kind : HeaderKind) (text : List Char) : Option Nat :=
  let first := text.head?.map fun _ => 0
  match kind with
  | .arrowThenColon =>
    if startsWith ['-', '>'] text then findTop (isAnyOf [':']) text else first
  | .beforeBody => findTop (isAnyOf ['\x7b', ';']) text
  | _ =>
    match afterStart? [':'] text with
    | some type => (findTop endsReturn type).map (· + 1)
    | none => first

/-- How much of the text behind the parameters is read. -/
def tailReach (kind : HeaderKind) (after : List Char) : Option Nat :=
  (lastRead kind (trimStart after)).map (after.length - (trimStart after).length + · + 1)

theorem trim_start_take {count : Nat} (filled : trimStart text ≠ [])
    (same : text.take (text.length - (trimStart text).length + (count + 1)) =
      other.take (text.length - (trimStart text).length + (count + 1))) :
    (trimStart text).take (count + 1) = (trimStart other).take (count + 1) := by
  induction text generalizing other with
  | nil => exact absurd rfl filled
  | cons c text induction =>
      by_cases blank : isBlank c = true
      · have passed : trimStart (c :: text) = trimStart text := trim_start_cons blank text
        have short : (trimStart text).length ≤ text.length := (List.dropWhile_suffix _).length_le
        have more : (c :: text).length - (trimStart text).length + (count + 1) =
            text.length - (trimStart text).length + (count + 1) + 1 := by
          rw [List.length_cons]
          omega
        rw [passed] at filled same ⊢
        rw [more] at same
        obtain ⟨rest, rfl, later⟩ := begins_with_head same
        rw [trim_start_cons blank]
        exact induction filled later
      · have solid : isBlank c = false := Bool.not_eq_true _ ▸ blank
        have whole (rest : List Char) : trimStart (c :: rest) = c :: rest :=
          trim_start_of_head rfl solid
        rw [whole, Nat.sub_self, Nat.zero_add] at same
        obtain ⟨rest, rfl, -⟩ := begins_with_head same
        rw [whole, whole]
        exact same

/-- A test that looks at most one character ahead. -/
def Near (wanted : Wanted) : Prop :=
  ∀ last c rest other, rest.head? = other.head? → wanted last c rest = wanted last c other

theorem near_any_of (chars : List Char) : Near (isAnyOf chars) := fun _ _ _ _ _ => rfl

theorem near_ends_return : Near endsReturn := by
  intro last c rest other same
  simp only [endsReturn, isAnyOf, isArrow, same]

theorem find_from_take {wanted : Wanted} (near : Near wanted) {place : Place} {index : Nat}
    (found : findFrom wanted place text = some index)
    (same : text.take (index + 2) = other.take (index + 2)) :
    findFrom wanted place other = some index := by
  induction text generalizing place other index with
  | nil => cases found
  | cons c text induction =>
      obtain ⟨rest, rfl, later⟩ := begins_with_head same
      rw [findFrom] at found ⊢
      rw [← near place.last c text rest (head_ahead later)]
      split at found
      · next hit => rw [if_pos hit, found]
      · next miss =>
          obtain ⟨further, there, rfl⟩ := Option.map_eq_some_iff.mp found
          rw [if_neg miss, induction there later]
          rfl

theorem take_top_take {wanted : Wanted} (near : Near wanted) {index : Nat}
    (found : findTop wanted text = some index)
    (same : text.take (index + 2) = other.take (index + 2)) :
    takeTop wanted other = takeTop wanted text := by
  have foundToo : findTop wanted other = some index := find_from_take near found same
  unfold takeTop
  rw [found, foundToo]
  exact (take_of_longer same (by omega)).symm

theorem tail_ahead {kind : HeaderKind} {reach : Nat} (reached : tailReach kind text = some reach)
    (same : text.take (reach + 1) = other.take (reach + 1)) :
    ∃ index, lastRead kind (trimStart text) = some index ∧
      (trimStart text).take (index + 2) = (trimStart other).take (index + 2) := by
  obtain ⟨index, found, rfl⟩ := Option.map_eq_some_iff.mp reached
  have filled : trimStart text ≠ [] := by
    intro empty
    rw [empty] at found
    cases kind <;> cases found
  exact ⟨index, found, trim_start_take filled same⟩

theorem read_arrow_take {index : Nat}
    (found : lastRead .arrowThenColon (trimStart text) = some index)
    (same : (trimStart text).take (index + 2) = (trimStart other).take (index + 2)) :
    readTail .arrowThenColon other = readTail .arrowThenColon text := by
  have arrow : startsWith ['-', '>'] (trimStart text) = startsWith ['-', '>'] (trimStart other) :=
    pair_ahead (take_of_longer same (by omega)) '-' '>'
  unfold readTail
  unfold lastRead at found
  simp only [← arrow] at found ⊢
  split at found
  · next shown => rw [if_pos shown, if_pos shown, take_top_take (near_any_of _) found same]
  · next absent => rw [if_neg absent, if_neg absent]

theorem read_body_take {index : Nat} (found : lastRead .beforeBody (trimStart text) = some index)
    (same : (trimStart text).take (index + 2) = (trimStart other).take (index + 2)) :
    readTail .beforeBody other = readTail .beforeBody text := by
  simp only [readTail, take_top_take (near_any_of _) found same]

theorem read_colon_take {kind : HeaderKind} (python : kind ≠ .arrowThenColon)
    (braces : kind ≠ .beforeBody) {index : Nat}
    (found : lastRead .colonThenBody (trimStart text) = some index)
    (same : (trimStart text).take (index + 2) = (trimStart other).take (index + 2)) :
    (readTail kind other).returned = (readTail kind text).returned := by
  rw [read_colon_eq python braces, read_colon_eq python braces]
  cases read : trimStart text with
  | nil =>
      rw [read] at found
      cases found
  | cons c rest =>
      rw [read] at found same
      obtain ⟨restToo, readToo, later⟩ := begins_with_head same
      rw [readToo]
      by_cases colon : c = ':'
      · subst colon
        obtain ⟨further, there, rfl⟩ := Option.map_eq_some_iff.mp found
        exact take_top_take near_ends_return there later
      · simp [afterStart?, Ne.symm colon]

theorem read_tail_take {kind : HeaderKind} {reach : Nat}
    (reached : tailReach kind text = some reach)
    (same : text.take (reach + 1) = other.take (reach + 1)) :
    (readTail kind other).returned = (readTail kind text).returned := by
  obtain ⟨index, found, ahead⟩ := tail_ahead reached same
  cases kind with
  | arrowThenColon => rw [read_arrow_take found ahead]
  | beforeBody => rw [read_body_take found ahead]
  | beforeName => exact read_colon_take nofun nofun found ahead
  | colonThenBody => exact read_colon_take nofun nofun found ahead
  | boundValue => exact read_colon_take nofun nofun found ahead

end Tails

section Headers

theorem avoids_append (first second : Pattern) (stop : Char) :
    (first ++ second).avoids stop = (first.avoids stop && second.avoids stop) := rfl

theorem chars_avoids {stop : Char} {text : List Char} (absent : stop ∉ text) :
    (chars text).avoids stop = true := by
  have unlike {c : Char} (other : stop ≠ c) : (one c).avoids stop = true := by
    simp [one, avoids, CharSet.contains, CharItem.holds, other.symm]
  induction text using chars.induct with
  | case1 => rfl
  | case2 c => exact unlike (List.ne_of_not_mem_cons absent)
  | case3 c rest filled induction =>
      rw [chars, avoids, unlike (List.ne_of_not_mem_cons absent),
        induction (List.not_mem_of_not_mem_cons absent)]
      · rfl
      · exact filled

/-- The header that is tried first is found by what stands in front of its parenthesis. The other
languages have a receiver there, which may hold a parenthesis, or a type, which may turn out to be
none. -/
theorem first_header {language : Option Language} {name : List Char}
    (plain : language ∉ [some .go, some .java, some .csharp]) (named : '(' ∉ name) :
    ∃ front kind others,
      functionHeaders language name = ⟨front ++ one '(', kind⟩ :: others ∧
      front.avoids '(' = true ∧ kind ≠ .beforeName ∧ kind ≠ .boundValue := by
  have avoided := chars_avoids named
  unfold functionHeaders
  split
  · refine ⟨_, _, [], rfl, ?_, nofun, nofun⟩
    simp only [avoids_append, avoided]
    decide
  · refine ⟨_, _, [], rfl, ?_, nofun, nofun⟩
    simp only [avoids_append, avoided]
    decide
  · exact absurd (by decide) plain
  · exact absurd (by decide) plain
  · exact absurd (by decide) plain
  · refine ⟨_, .colonThenBody, _, rfl, ?_, nofun, nofun⟩
    simp only [avoids_append, avoided]
    decide

end Headers

section Reading

variable {code other : List Char}

theorem drop_take_of_same {count more : Nat}
    (same : code.take (count + more) = other.take (count + more)) :
    (code.drop count).take more = (other.drop count).take more := by
  have later := congrArg (List.drop count) same
  rwa [List.drop_take, List.drop_take, Nat.add_sub_cancel_left] at later

theorem closing_paren_take {index closing : Nat} (closes : closingParen code index = some closing)
    (same : code.take (closing + 1) = other.take (closing + 1)) :
    closingParen other index = some closing := by
  obtain ⟨place, found, rfl⟩ := Option.map_eq_some_iff.mp closes
  have inside : (code.drop index).take (place + 1) = (other.drop index).take (place + 1) := by
    apply drop_take_of_same
    rwa [Nat.add_comm place, Nat.add_assoc] at same
  rw [closingParen, balanced_from_take found inside]
  rfl

theorem at_header_take (language : Option Language) {kind : HeaderKind} {header : Match}
    {closing reach : Nat} (typed : kind ≠ .beforeName) (bound : kind ≠ .boundValue)
    (closes : closingParen code (header.stop - 1) = some closing)
    (reached : tailReach kind (code.drop (closing + 1)) = some reach)
    (same : code.take (closing + 1 + (reach + 1)) = other.take (closing + 1 + (reach + 1))) :
    (atHeader language code kind header).isSome ∧
      atHeader language other kind header = atHeader language code kind header := by
  have closesToo : closingParen other (header.stop - 1) = some closing :=
    closing_paren_take closes (take_of_longer same (by omega))
  have params : (other.drop (header.stop - 1)).take (closing + 1 - (header.stop - 1)) =
      (code.drop (header.stop - 1)).take (closing + 1 - (header.stop - 1)) := by
    rw [← List.drop_take, ← List.drop_take, take_of_longer same (Nat.le_add_right _ _)]
  have returned := read_tail_take reached (drop_take_of_same same)
  have typed : (kind == .beforeName) = false := beq_false_of_ne typed
  have bound : (kind == .boundValue) = false := beq_false_of_ne bound
  unfold atHeader
  simp only [typed, bound, closes, closesToo, params, returned]
  simp

end Reading

/-- Where the part of a text ends that is read for the first header of a function. -/
def headEnd (language : Option Language) (name text : List Char) : Option Nat := do
  let header ← (functionHeaders language name).head?
  let found ← header.pattern.search (mask language true text)
  let closing ← closingParen (stripComments language text) (found.stop - 1)
  let reach ← tailReach header.kind ((stripComments language text).drop (closing + 1))
  return closing + 1 + reach

theorem of_function_first {language : Option Language} {name text : List Char} {header : Header}
    {others : List Header} (headers : functionHeaders language name = header :: others)
    {found : Match} (searched : header.pattern.search (mask language true text) = some found)
    (read : (atHeader language (stripComments language text) header.kind found).isSome) :
    ofFunction language name text =
      atHeader language (stripComments language text) header.kind found := by
  obtain ⟨signature, shown⟩ := Option.isSome_iff_exists.mp read
  have first := (find_all_head header.pattern none (mask language true text) 0).trans searched
  obtain ⟨more, all⟩ := List.head?_eq_some_iff.mp first
  unfold ofFunction
  simp only [headers, List.findSome?_cons, Pattern.findAll, all, shown]

/-- Whatever follows a text that holds the head of a function and three more characters, the
signature of the function is found, and it is the same. -/
theorem signature_ignores_later_text {language : Option Language} {name text : List Char}
    {stop : Nat} (plain : language ∉ [some .go, some .java, some .csharp]) (named : '(' ∉ name)
    (ends : headEnd language name text = some stop) (room : stop + 3 ≤ text.length)
    (later other : List Char) :
    ofFunction language name (text ++ later) = ofFunction language name (text ++ other) ∧
      (ofFunction language name (text ++ later)).isSome := by
  obtain ⟨front, kind, others, headers, avoiding, typed, bound⟩ := first_header plain named
  simp only [headEnd, headers, List.head?_cons, bind, Option.bind_eq_some_iff, pure,
    Option.some.injEq] at ends
  obtain ⟨_, rfl, found, searched, closing, closes, reach, reached, rfl⟩ := ends
  have masked (hideStrings : Bool) (more : List Char) {count : Nat}
      (within : count + 2 ≤ text.length) :
      (mask language hideStrings text).take count =
        (mask language hideStrings (text ++ more)).take count :=
    take_of_longer (mask_append_take language hideStrings text more).symm (by omega)
  -- all that is read lies in front of the last two characters, which alone may be masked otherwise
  have settled (more : List Char) :
      (atHeader language (stripComments language text) kind found).isSome ∧
        ofFunction language name (text ++ more) =
          atHeader language (stripComments language text) kind found := by
    have inside : found.stop - 1 ≤ closing := closing_paren_ge closes
    have searchedToo := search_take avoiding searched (masked true more (by omega))
    obtain ⟨read, same⟩ :=
      at_header_take language typed bound closes reached (masked false more (by omega))
    exact ⟨read, (of_function_first headers searchedToo (same ▸ read)).trans same⟩
  obtain ⟨read, here⟩ := settled later
  obtain ⟨-, there⟩ := settled other
  rw [here, there]
  exact ⟨rfl, read⟩

/-- The default value of a parameter and a comment behind the head do no harm. -/
theorem edited_body_keeps_signature :
    headEnd (some .python) "f".toList
        "async def f(a: str = \")\") -> dict[str, int]:  # x\n".toList = some 44 ∧
      ∀ later other,
        ofFunction (some .python) "f".toList
            ("async def f(a: str = \")\") -> dict[str, int]:  # x\n".toList ++ later) =
          ofFunction (some .python) "f".toList
            ("async def f(a: str = \")\") -> dict[str, int]:  # x\n".toList ++ other) := by
  have ends : headEnd (some .python) "f".toList
      "async def f(a: str = \")\") -> dict[str, int]:  # x\n".toList = some 44 := by
    decide +kernel
  refine ⟨ends, fun later other => ?_⟩
  exact (signature_ignores_later_text (by decide) (by decide) ends (by decide) later other).1

end EditImpact.Signature
