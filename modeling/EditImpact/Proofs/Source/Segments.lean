import EditImpact.Proofs.Source.Causality
import Mathlib.Data.List.Chain

/-!
# Masking segment by segment

A text of a language with slash comments is a sequence of code, strings and comments. Where each
segment is written as its kind is, and none runs into the next, the masked text is the sequence of
the masked segments (`mask_of_segments`).
-/

namespace EditImpact.Source

set_option autoImplicit false

/-- A character of a string body that stands for itself, or a backslash and the character behind. -/
inductive StringItem where
  | plain (c : Char)
  | escape (c : Char)
  deriving DecidableEq, Repr

namespace StringItem

def text : StringItem → List Char
  | plain c => [c]
  | escape c => ['\\', c]

/-- Only a template runs over the end of a line. -/
def Fits (quote : Char) : StringItem → Prop
  | plain c => c ≠ quote ∧ c ≠ '\\' ∧ (quote ≠ '`' → c ≠ '\n')
  | escape _ => True

instance (quote : Char) : (item : StringItem) → Decidable (item.Fits quote)
  | plain c => inferInstanceAs (Decidable (c ≠ quote ∧ c ≠ '\\' ∧ (quote ≠ '`' → c ≠ '\n')))
  | escape _ => inferInstanceAs (Decidable True)

end StringItem

inductive Segment where
  | code (text : List Char)
  | string (quote : Char) (items : List StringItem)
  | lineComment (body : List Char)
  | blockComment (body : List Char)
  deriving DecidableEq, Repr

namespace Segment

def text : Segment → List Char
  | code text => text
  | string quote items => quote :: (items.flatMap StringItem.text ++ [quote])
  | lineComment body => '/' :: '/' :: body
  | blockComment body => '/' :: '*' :: (body ++ ['*', '/'])

def masked (hideStrings : Bool) : Segment → List Char
  | code text => text
  | string quote items =>
    let body := items.flatMap StringItem.text
    quote :: ((if hideStrings then body.map blankOut else body) ++ [quote])
  | lineComment body => (lineComment body).text.map blankOut
  | blockComment body => (blockComment body).text.map blankOut

def WellFormed : Segment → Prop
  | code text =>
    (∀ c ∈ text, isQuote c = false) ∧ ¬['/', '/'] <:+: text ∧ ¬['/', '*'] <:+: text
  | string quote items => isQuote quote = true ∧ ∀ item ∈ items, item.Fits quote
  | lineComment body => '\n' ∉ body
  | blockComment body => ¬['*', '/'] <:+: body

instance : (segment : Segment) → Decidable segment.WellFormed
  | code text => inferInstanceAs (Decidable
      ((∀ c ∈ text, isQuote c = false) ∧ ¬['/', '/'] <:+: text ∧ ¬['/', '*'] <:+: text))
  | string quote items =>
    inferInstanceAs (Decidable (isQuote quote = true ∧ ∀ item ∈ items, item.Fits quote))
  | lineComment body => inferInstanceAs (Decidable ('\n' ∉ body))
  | blockComment body => inferInstanceAs (Decidable (¬['*', '/'] <:+: body))

/-- Which segments may stand side by side. -/
def Before : Segment → Segment → Prop
  | code _, code _ => False
  | code _, string _ _ => True
  | code text, _ => text.getLast? ≠ some '/'
  | lineComment _, code text => text.head? = some '\n'
  | lineComment _, _ => False
  | _, _ => True

/-- Nothing of the segment runs on into the text behind it. -/
def Ends : Segment → List Char → Prop
  | code text, rest => text.getLast? = some '/' → rest.head? ≠ some '/' ∧ rest.head? ≠ some '*'
  | lineComment _, rest => ∀ c, rest.head? = some c → c = '\n'
  | _, _ => True

end Segment

/-- Slash comments, and strings in any of the three quotes. -/
def slashDialect : Dialect := ⟨false, ['\'', '"', '`']⟩

theorem dialect_of_slash {language : Option Language} (python : language ≠ some .python)
    (rust : language ≠ some .rust) : Dialect.of language = slashDialect := by
  unfold Dialect.of
  split
  · exact absurd rfl python
  · exact absurd rfl rust
  · rfl

theorem slash_quotes {c : Char} : slashDialect.quotes.contains c = isQuote c := by
  simp only [slashDialect, isQuote, List.contains_cons, List.contains_nil, Bool.or_false,
    Bool.or_assoc]

section Reading

variable (hideStrings : Bool)

theorem step_slash_code {c : Char} {rest : List Char} (quote : isQuote c = false)
    (line : ¬['/', '/'] <+: c :: rest) (block : ¬['/', '*'] <+: c :: rest) :
    step slashDialect .code c rest = (.code, .code) := by
  have second (d : Char) (unopened : ¬['/', d] <+: c :: rest) :
      (c == '/' && rest.head? == some d) = false := by
    by_contra opened
    rw [Bool.not_eq_false, Bool.and_eq_true, beq_iff_eq, beq_iff_eq] at opened
    obtain ⟨rfl, head⟩ := opened
    obtain ⟨more, rfl⟩ := List.head?_eq_some_iff.mp head
    exact unopened ⟨more, rfl⟩
  rw [step_code, slash_quotes, quote, opensLine]
  simp [slashDialect, second '/' line, second '*' block]

theorem mask_code {text rest : List Char} (formed : (Segment.code text).WellFormed)
    (ends : (Segment.code text).Ends rest) :
    maskFrom slashDialect hideStrings .code (text ++ rest) =
      text ++ maskFrom slashDialect hideStrings .code rest := by
  induction text with
  | nil => rfl
  | cons c text induction =>
      obtain ⟨unquoted, line, block⟩ := formed
      have unopened (d : Char) (special : d = '/' ∨ d = '*') (inside : ¬['/', d] <:+: c :: text) :
          ¬['/', d] <+: c :: (text ++ rest) := by
        intro opened
        cases text with
        | nil =>
            obtain ⟨rfl, head⟩ := List.cons_prefix_cons.mp opened
            obtain ⟨more, rfl⟩ := head
            obtain ⟨slash, star⟩ := ends rfl
            rcases special with rfl | rfl
            · exact slash rfl
            · exact star rfl
        | cons e text =>
            obtain ⟨rfl, head⟩ := List.cons_prefix_cons.mp opened
            obtain ⟨rfl, -⟩ := List.cons_prefix_cons.mp head
            exact inside ⟨[], text, rfl⟩
      have here : step slashDialect .code c (text ++ rest) = (.code, .code) :=
        step_slash_code (unquoted c List.mem_cons_self) (unopened '/' (.inl rfl) line)
          (unopened '*' (.inr rfl) block)
      have later : (Segment.code text).WellFormed := by
        refine ⟨fun d member => unquoted d (List.mem_cons_of_mem c member), ?_, ?_⟩
        · exact fun inside => line (inside.trans (List.infix_cons_iff.mpr (.inr List.infix_rfl)))
        · exact fun inside => block (inside.trans (List.infix_cons_iff.mpr (.inr List.infix_rfl)))
      have endsToo : (Segment.code text).Ends rest := by
        intro last
        apply ends
        rw [List.getLast?_cons, last]
        rfl
      rw [List.cons_append, mask_from_cons, here, induction later endsToo]
      rfl

theorem map_paint_literal (body : List Char) :
    body.map (paint hideStrings .literal) =
      if hideStrings then body.map blankOut else body := by
  cases hideStrings with
  | true => rfl
  | false => exact List.map_id body

theorem step_in_string {dialect : Dialect} {quote c : Char} (fits : (StringItem.plain c).Fits quote)
    (rest : List Char) :
    step dialect (.quoted quote false) c rest = (.literal, .quoted quote false) := by
  obtain ⟨other, unescaped, within⟩ := fits
  have stays : (c == '\n' && quote != '`') = false := by
    by_contra ended
    rw [Bool.not_eq_false, Bool.and_eq_true, beq_iff_eq, bne_iff_ne] at ended
    exact within ended.2 ended.1
  simp [step, other, unescaped, stays]

theorem mask_string_items {quote : Char} {items : List StringItem}
    (fits : ∀ item ∈ items, item.Fits quote) (rest : List Char) :
    maskFrom slashDialect hideStrings (.quoted quote false)
        (items.flatMap StringItem.text ++ rest) =
      (items.flatMap StringItem.text).map (paint hideStrings .literal) ++
        maskFrom slashDialect hideStrings (.quoted quote false) rest := by
  induction items with
  | nil => rfl
  | cons item items induction =>
      have here := fits item List.mem_cons_self
      have later := induction fun other member => fits other (List.mem_cons_of_mem item member)
      cases item with
      | plain c =>
          rw [List.flatMap_cons, StringItem.text, List.append_assoc, List.singleton_append,
            mask_from_cons, step_in_string here, later]
          rfl
      | escape c =>
          have escaped (more : List Char) : step slashDialect (.quoted quote false) '\\' more =
            (.literal, .escaped quote false) := rfl
          have passed (more : List Char) : step slashDialect (.escaped quote false) c more =
            (.literal, .quoted quote false) := rfl
          rw [List.flatMap_cons, StringItem.text, List.append_assoc, List.cons_append,
            List.singleton_append, mask_from_cons, escaped, mask_from_cons, passed, later]
          rfl

theorem mask_string {quote : Char} {items : List StringItem}
    (formed : (Segment.string quote items).WellFormed) (rest : List Char) :
    maskFrom slashDialect hideStrings .code ((Segment.string quote items).text ++ rest) =
      (Segment.string quote items).masked hideStrings ++
        maskFrom slashDialect hideStrings .code rest := by
  obtain ⟨quoted, fits⟩ := formed
  have opens (more : List Char) :
      step slashDialect .code quote more = (.code, .quoted quote false) := by
    have slash : quote ≠ '/' := by
      rintro rfl
      cases quoted
    rw [step_code, slash_quotes, quoted, opensLine]
    simp [slashDialect, slash]
  have closes (more : List Char) :
      step slashDialect (.quoted quote false) quote more = (.code, .code) := by
    have backslash : quote ≠ '\\' := by
      rintro rfl
      cases quoted
    simp [step, backslash]
  rw [Segment.text, Segment.masked, ← map_paint_literal, List.cons_append, List.append_assoc,
    List.singleton_append, mask_from_cons, opens, mask_string_items hideStrings fits,
    mask_from_cons, closes, List.cons_append, List.append_assoc]
  rfl

theorem mask_line_comment {body rest : List Char} (formed : (Segment.lineComment body).WellFormed)
    (ends : (Segment.lineComment body).Ends rest) :
    maskFrom slashDialect hideStrings .code ((Segment.lineComment body).text ++ rest) =
      (Segment.lineComment body).masked hideStrings ++
        maskFrom slashDialect hideStrings .code rest := by
  -- a newline is read alike in the comment, which it ends, and in the code behind
  have behind : maskFrom slashDialect hideStrings .lineComment rest =
      maskFrom slashDialect hideStrings .code rest := by
    cases rest with
    | nil => rfl
    | cons c rest =>
        obtain rfl := ends c rfl
        rfl
  have through : maskFrom slashDialect hideStrings .lineComment (body ++ rest) =
      body.map blankOut ++ maskFrom slashDialect hideStrings .code rest := by
    induction body with
    | nil => exact behind
    | cons c body induction =>
        have formedToo : '\n' ≠ c ∧ '\n' ∉ body := by
          rwa [ne_eq, ← not_or, ← List.mem_cons]
        have stays : step slashDialect .lineComment c (body ++ rest) =
            (.comment, .lineComment) := by
          simp [step, formedToo.1.symm]
        rw [List.cons_append, mask_from_cons, stays, induction formedToo.2 ends]
        rfl
  have opens (more : List Char) : step slashDialect .code '/' ('/' :: more) =
    (.comment, .lineComment) := rfl
  have second (more : List Char) : step slashDialect .lineComment '/' more =
    (.comment, .lineComment) := rfl
  rw [Segment.text, List.cons_append, List.cons_append, mask_from_cons, opens, mask_from_cons,
    second, through]
  rfl

theorem mask_block_comment {body : List Char} (formed : (Segment.blockComment body).WellFormed)
    (rest : List Char) :
    maskFrom slashDialect hideStrings .code ((Segment.blockComment body).text ++ rest) =
      (Segment.blockComment body).masked hideStrings ++
        maskFrom slashDialect hideStrings .code rest := by
  have through : maskFrom slashDialect hideStrings .block (body ++ ['*', '/'] ++ rest) =
      (body ++ ['*', '/']).map blankOut ++ maskFrom slashDialect hideStrings .code rest := by
    induction body with
    | nil => rfl
    | cons c body induction =>
        have unclosed : ¬(c = '*' ∧ (body ++ ['*', '/'] ++ rest).head? = some '/') := by
          rintro ⟨rfl, head⟩
          cases body with
          | nil => cases head
          | cons d body =>
              obtain rfl := Option.some.inj head
              exact formed ⟨[], body, rfl⟩
        have stays : step slashDialect .block c (body ++ ['*', '/'] ++ rest) =
            (.comment, .block) := by
          simpa [step] using unclosed
        have later : (Segment.blockComment body).WellFormed := fun inside =>
          formed (inside.trans (List.infix_cons_iff.mpr (.inr List.infix_rfl)))
        rw [List.cons_append, List.cons_append, mask_from_cons, stays, induction later]
        rfl
  have opens (more : List Char) : step slashDialect .code '/' ('*' :: more) =
    (.comment, .blockOpen) := rfl
  have second (more : List Char) : step slashDialect .blockOpen '*' more =
    (.comment, .block) := rfl
  rw [Segment.text, List.cons_append, List.cons_append, mask_from_cons, opens, mask_from_cons,
    second, through]
  rfl

theorem mask_segment {segment : Segment} (formed : segment.WellFormed) {rest : List Char}
    (ends : segment.Ends rest) :
    maskFrom slashDialect hideStrings .code (segment.text ++ rest) =
      segment.masked hideStrings ++ maskFrom slashDialect hideStrings .code rest := by
  cases segment with
  | code text => exact mask_code hideStrings formed ends
  | string quote items => exact mask_string hideStrings formed rest
  | lineComment body => exact mask_line_comment hideStrings formed ends
  | blockComment body => exact mask_block_comment hideStrings formed rest

end Reading

/-- A segment ends where a segment that may stand behind it begins. -/
theorem Segment.Before.ends {segment next : Segment} (before : segment.Before next)
    (formed : next.WellFormed) (rest : List Char) : segment.Ends (next.text ++ rest) := by
  cases segment with
  | code text =>
      intro slash
      cases next with
      | code other => exact absurd before id
      | string quote items =>
          obtain ⟨quoted, -⟩ := formed
          constructor
          · intro head
            obtain rfl := Option.some.inj head
            cases quoted
          · intro head
            obtain rfl := Option.some.inj head
            cases quoted
      | lineComment body => exact absurd slash before
      | blockComment body => exact absurd slash before
  | string quote items => trivial
  | lineComment body =>
      cases next with
      | code text =>
          obtain ⟨more, starts⟩ := List.head?_eq_some_iff.mp before
          intro c head
          change (text ++ rest).head? = some c at head
          rw [starts] at head
          exact (Option.some.inj head).symm
      | string quote items => exact absurd before id
      | lineComment body => exact absurd before id
      | blockComment body => exact absurd before id
  | blockComment body => trivial

theorem Segment.ends_nil (segment : Segment) : segment.Ends [] := by
  cases segment with
  | code text => exact fun _ => ⟨nofun, nofun⟩
  | string quote items => trivial
  | lineComment body => exact fun c head => nomatch head
  | blockComment body => trivial

/-- A text is masked segment by segment. -/
theorem mask_of_segments {language : Option Language} (python : language ≠ some .python)
    (rust : language ≠ some .rust) {segments : List Segment}
    (formed : ∀ segment ∈ segments, segment.WellFormed) (side : segments.IsChain Segment.Before)
    (hideStrings : Bool) :
    mask language hideStrings (segments.flatMap Segment.text) =
      segments.flatMap (Segment.masked hideStrings) := by
  rw [mask_eq, dialect_of_slash python rust]
  induction segments with
  | nil => rfl
  | cons segment segments induction =>
      have here := formed segment List.mem_cons_self
      have later := induction
        (fun other member => formed other (List.mem_cons_of_mem segment member)) side.tail
      have ends : segment.Ends (segments.flatMap Segment.text) := by
        cases segments with
        | nil => exact segment.ends_nil
        | cons next segments =>
            apply Segment.Before.ends
            · exact (List.isChain_cons_cons.mp side).1
            · exact formed next (by simp)
      rw [List.flatMap_cons, List.flatMap_cons, mask_segment hideStrings here ends, later]

/-- A comment opener and a quote in a string, a quote in either comment, and a division. -/
theorem mask_of_mixed_segments :
    let segments : List Segment :=
      [.code "a = ".toList, .string '"' [.plain '/', .plain '/', .escape '"'],
        .code " / b ".toList, .blockComment " it's\n".toList, .lineComment " \"".toList,
        .code "\n;".toList]
    (∀ segment ∈ segments, segment.WellFormed) ∧ segments.IsChain Segment.Before ∧
      segments.flatMap Segment.text = "a = \"//\\\"\" / b /* it's\n*/// \"\n;".toList ∧
      mask (some .typescript) true "a = \"//\\\"\" / b /* it's\n*/// \"\n;".toList =
        "a = \"    \" / b        \n      \n;".toList := by
  intro segments
  have formed : ∀ segment ∈ segments, segment.WellFormed := by decide +kernel
  have side : segments.IsChain Segment.Before := by simp [segments, Segment.Before]
  exact ⟨formed, side, rfl, mask_of_segments (by decide) (by decide) formed side true⟩

end EditImpact.Source
