import EditImpact.Source.Mask
import EditImpact.Source.TopLevel

/-!
# Texts without comments

Masking reads a text one character at a time with a short look ahead. Where two texts meet so that
no comment or long string opens across the seam, and the first ends outside strings, the second is
read as if it stood alone (`mask_append`). A text that is uncommented on its own is therefore left
as it is inside a longer one.
-/

namespace EditImpact.Source

set_option autoImplicit false

/-- Whether a comment opens at `c`, where `rest` follows. -/
def opensComment (dialect : Dialect) (c : Char) (rest : List Char) : Bool :=
  if dialect.hashComments then c == '#'
  else c == '/' && (rest.head? == some '/' || rest.head? == some '*')

/-- No comment opener anywhere, not even inside strings. -/
def commentFree (dialect : Dialect) : List Char → Bool
  | [] => true
  | c :: rest => !opensComment dialect c rest && commentFree dialect rest

/-- The place after a text that nothing follows. -/
def modeAfter (dialect : Dialect) : Mode → List Char → Mode
  | mode, [] => mode
  | mode, c :: rest => modeAfter dialect (step dialect mode c rest).2 rest

/-- Nothing opens across the seam of two texts. -/
def Apart (dialect : Dialect) (left right : List Char) : Prop :=
  (∀ c, left.getLast? = some c → c ≠ '/' ∧ c ∉ dialect.quotes) ∨
    ∀ c, right.head? = some c → c ≠ '/' ∧ c ≠ '*' ∧ c ∉ dialect.quotes

theorem apart_tail {dialect : Dialect} {c : Char} {left right : List Char}
    (apart : Apart dialect (c :: left) right) : Apart dialect left right := by
  refine apart.imp_left fun free d last => free d ?_
  cases left with
  | nil => cases last
  | cons e left => simpa using last

/-- Two equal quotes at the seam would have to come from both sides. -/
theorem not_long_quote {dialect : Dialect} {c : Char} {left right : List Char}
    (quote : c ∈ dialect.quotes) (apart : Apart dialect (c :: left) right) :
    [c, c].isPrefixOf (left ++ right) = [c, c].isPrefixOf left := by
  match left with
  | [] =>
      rcases apart with free | free
      · exact absurd quote (free c rfl).2
      · cases right with
        | nil => rfl
        | cons d right =>
            have differs : c ≠ d := fun same => (free d rfl).2.2 (same ▸ quote)
            simp [List.isPrefixOf, differs]
  | [d] =>
      by_cases same : c = d
      · subst same
        rcases apart with free | free
        · exact absurd quote (free c rfl).2
        · cases right with
          | nil => rfl
          | cons e right =>
              have differs : c ≠ e := fun equal => (free e rfl).2.2 (equal ▸ quote)
              simp [List.isPrefixOf, differs]
      · simp [List.isPrefixOf, same]
  | d :: e :: left => simp [List.isPrefixOf]

/-- A long string is not closed by fewer than three characters. -/
theorem long_string_open (dialect : Dialect) (quote : Char) {text : List Char}
    (short : text.length < 3) : modeAfter dialect (.quoted quote true) text ≠ .code := by
  have read (c : Char) (rest : List Char) (few : rest.length < 2) :
      (step dialect (.quoted quote true) c rest).2 = .escaped quote true ∨
        (step dialect (.quoted quote true) c rest).2 = .quoted quote true := by
    have unclosed : [quote, quote].isPrefixOf rest = false := by
      match rest, few with
      | [], _ => rfl
      | [d], _ => simp [List.isPrefixOf]
    by_cases escape : c = '\\' <;> simp [step, escape, unclosed]
  match text, short with
  | [], _ => simp [modeAfter]
  | [c], _ =>
      rcases read c [] (by simp) with next | next <;> simp [modeAfter, next]
  | [c, d], _ =>
      rcases read c [d] (by simp) with next | next
      · simp only [modeAfter, next]
        simp [step]
      · rcases read d [] (by simp) with after | after <;> simp [modeAfter, next, after]

/-- One character is read alike whether or not another text stands behind its own, if its own text
ends outside strings and comments. -/
theorem step_append {dialect : Dialect} {mode : Mode} {c : Char} {left right : List Char}
    (ended : modeAfter dialect mode (c :: left) = .code) (apart : Apart dialect (c :: left) right) :
    step dialect mode c (left ++ right) = step dialect mode c left := by
  -- The reader looks ahead for the second character of a comment opener, for the slash that closes a
  -- comment, and for the other two quotes of a long delimiter; in all other places there is no seam.
  cases mode with
  | code =>
      have slash (d : Char) (special : d = '/' ∨ d = '*') (open' : c = '/') :
          ((left ++ right).head? == some d) = (left.head? == some d) := by
        cases left with
        | cons e left => rfl
        | nil =>
            rcases apart with free | free
            · exact absurd open' (free c rfl).1
            · cases right with
              | nil => rfl
              | cons e right =>
                  obtain ⟨first, second, -⟩ := free e rfl
                  rcases special with rfl | rfl
                  · simp [first]
                  · simp [second]
      by_cases open' : c = '/'
      · simp only [step, slash '/' (.inl rfl) open', slash '*' (.inr rfl) open']
        by_cases quote : c ∈ dialect.quotes
        · rw [not_long_quote quote apart]
        · simp [quote]
      · by_cases quote : c ∈ dialect.quotes
        · simp only [step, not_long_quote quote apart, Bool.false_and,
            beq_eq_false_iff_ne.mpr open', Bool.and_false]
        · simp [step, quote, open']
  | block =>
      cases left with
      | cons d left => rfl
      | nil => simp [modeAfter, step] at ended
  | quoted quote long =>
      cases long with
      | false => rfl
      | true =>
          match left with
          | [] => exact absurd ended (long_string_open dialect quote (by simp))
          | [d] => exact absurd ended (long_string_open dialect quote (by simp))
          | d :: e :: left => simp [step, List.isPrefixOf]
  | lineComment => rfl
  | blockOpen => rfl
  | blockClose => rfl
  | opening quote left => rfl
  | escaped quote long => rfl
  | closing left => rfl

theorem covers_append {dialect : Dialect} {mode : Mode} {left right : List Char}
    (ended : modeAfter dialect mode left = .code) (apart : Apart dialect left right) :
    covers dialect mode (left ++ right) =
      covers dialect mode left ++ covers dialect .code right := by
  induction left generalizing mode with
  | nil =>
      cases ended
      rfl
  | cons c left induction =>
      simp only [List.cons_append, covers, step_append ended apart]
      rw [induction ended (apart_tail apart)]

theorem mode_after_append {dialect : Dialect} {mode : Mode} {left right : List Char}
    (ended : modeAfter dialect mode left = .code) (apart : Apart dialect left right) :
    modeAfter dialect mode (left ++ right) = modeAfter dialect .code right := by
  induction left generalizing mode with
  | nil =>
      cases ended
      rfl
  | cons c left induction =>
      simp only [List.cons_append, modeAfter, step_append ended apart]
      exact induction ended (apart_tail apart)

theorem mask_append {language : Option Language} {left right : List Char} (hideStrings : Bool)
    (ended : modeAfter (Dialect.of language) .code left = .code)
    (apart : Apart (Dialect.of language) left right) :
    mask language hideStrings (left ++ right) =
      mask language hideStrings left ++ mask language hideStrings right := by
  rw [mask, covers_append ended apart, List.zipWith_append (covers_length _ _ _)]
  rfl

/-- A text that ends outside strings and comments and holds no comment. -/
structure Uncommented (language : Option Language) (text : List Char) : Prop where
  ended : modeAfter (Dialect.of language) .code text = .code
  kept : stripComments language text = text

instance (language : Option Language) (text : List Char) : Decidable (Uncommented language text) :=
  decidable_of_iff
    (modeAfter (Dialect.of language) .code text = .code ∧ stripComments language text = text)
    ⟨fun both => ⟨both.1, both.2⟩, fun both => ⟨both.1, both.2⟩⟩

/-- Characters that open nothing and close nothing, whatever stands beside them. -/
def isCalm (c : Char) : Bool := !isQuote c && c != '/' && c != '*' && c != '#'

theorem quotes_are_quotes {language : Option Language} {c : Char}
    (quote : c ∈ (Dialect.of language).quotes) : isQuote c = true := by
  unfold Dialect.of at quote
  split at quote <;> simp only [List.mem_cons, List.not_mem_nil, or_false] at quote <;>
    rcases quote with rfl | rfl | rfl <;> rfl

theorem comment_free_append {dialect : Dialect} {left right : List Char}
    (first : commentFree dialect left = true) (second : commentFree dialect right = true)
    (seam : left.getLast? ≠ some '/' ∨ ∀ c, right.head? = some c → c ≠ '/' ∧ c ≠ '*') :
    commentFree dialect (left ++ right) = true := by
  induction left with
  | nil => exact second
  | cons c left induction =>
      simp only [commentFree, Bool.and_eq_true, Bool.not_eq_true'] at first
      have later : left.getLast? ≠ some '/' ∨ ∀ d, right.head? = some d → d ≠ '/' ∧ d ≠ '*' := by
        refine seam.imp_left fun other last => other ?_
        cases left with
        | nil => cases last
        | cons d left => simpa using last
      have here : opensComment dialect c (left ++ right) = false := by
        cases left with
        | cons d left => exact first.1
        | nil =>
            rcases seam with other | other
            · have slash : c ≠ '/' := fun same => other (congrArg some same)
              simpa [opensComment, slash] using first.1
            · cases right with
              | nil => exact first.1
              | cons d right =>
                  obtain ⟨slash, star⟩ := other d rfl
                  simpa [opensComment, slash, star] using first.1
      simp only [List.cons_append, commentFree, here, induction first.2 later]
      rfl

theorem comment_free_of_append {dialect : Dialect} {left right : List Char}
    (both : commentFree dialect (left ++ right) = true) : commentFree dialect left = true := by
  induction left with
  | nil => rfl
  | cons c left induction =>
      simp only [List.cons_append, commentFree, Bool.and_eq_true, Bool.not_eq_true'] at both
      have here : opensComment dialect c left = false := by
        cases left with
        | cons d left => exact both.1
        | nil =>
            have other := both.1
            unfold opensComment at other ⊢
            split at other <;> simp_all
      simp only [commentFree, here, induction both.2]
      rfl

theorem comment_free_of_quiet {dialect : Dialect} {text : List Char}
    (quiet : ∀ c ∈ text, c ≠ '/' ∧ c ≠ '#') : commentFree dialect text = true := by
  induction text with
  | nil => rfl
  | cons c rest induction =>
      obtain ⟨slash, hash⟩ := quiet c List.mem_cons_self
      rw [commentFree, induction fun d member => quiet d (List.mem_cons_of_mem c member)]
      simp [opensComment, slash, hash]

theorem comment_free_of_calm {dialect : Dialect} {text : List Char}
    (calm : ∀ c ∈ text, isCalm c = true) : commentFree dialect text = true := by
  apply comment_free_of_quiet
  intro c member
  have free := calm c member
  simp only [isCalm, Bool.and_eq_true, bne_iff_ne] at free
  exact ⟨free.1.1.2, free.2⟩

/-- Without quotes and comment openers everything is code. -/
theorem read_plain {language : Option Language} {text : List Char}
    (quoteFree : ∀ c ∈ text, isQuote c = false)
    (free : commentFree (Dialect.of language) text = true) :
    modeAfter (Dialect.of language) .code text = .code ∧
      ∀ hideStrings, mask language hideStrings text = text := by
  have read (rest : List Char) (c : Char) (quote : isQuote c = false)
      (opens : opensComment (Dialect.of language) c rest = false) :
      step (Dialect.of language) .code c rest = (.code, .code) := by
    have unquoted : c ∉ (Dialect.of language).quotes := by
      intro member
      rw [quotes_are_quotes member] at quote
      cases quote
    unfold opensComment at opens
    split at opens
    · next hash => simp [step, hash, opens, unquoted]
    · next hash =>
        simp only [Bool.not_eq_true] at hash
        rw [Bool.and_or_distrib_left, Bool.or_eq_false_iff] at opens
        simp [step, hash, opens.1, opens.2, unquoted]
  have both : modeAfter (Dialect.of language) .code text = .code ∧
      ∀ hideStrings, List.zipWith (paint hideStrings) (covers (Dialect.of language) .code text)
        text = text := by
    induction text with
    | nil => exact ⟨rfl, fun hideStrings => rfl⟩
    | cons c rest induction =>
        simp only [commentFree, Bool.and_eq_true, Bool.not_eq_true'] at free
        have here := read rest c (quoteFree c List.mem_cons_self) free.1
        have later := induction (fun d member => quoteFree d (List.mem_cons_of_mem c member)) free.2
        refine ⟨by rw [modeAfter, here]; exact later.1, fun hideStrings => ?_⟩
        rw [covers, here, List.zipWith_cons_cons, later.2 hideStrings]
        rfl
  exact both

namespace Uncommented

variable {language : Option Language}

theorem of_plain {text : List Char} (quoteFree : ∀ c ∈ text, isQuote c = false)
    (free : commentFree (Dialect.of language) text = true) : Uncommented language text :=
  ⟨(read_plain quoteFree free).1, (read_plain quoteFree free).2 false⟩

theorem of_quiet {text : List Char}
    (quiet : ∀ c ∈ text, isQuote c = false ∧ c ≠ '/' ∧ c ≠ '#') : Uncommented language text :=
  of_plain (fun c member => (quiet c member).1)
    (comment_free_of_quiet fun c member => (quiet c member).2)

theorem of_calm {text : List Char} (calm : ∀ c ∈ text, isCalm c = true) :
    Uncommented language text := by
  apply of_quiet
  intro c member
  have free := calm c member
  simp only [isCalm, Bool.and_eq_true, Bool.not_eq_true', bne_iff_ne] at free
  exact ⟨free.1.1.1, free.1.1.2, free.2⟩

theorem append {left right : List Char} (first : Uncommented language left)
    (second : Uncommented language right) (apart : Apart (Dialect.of language) left right) :
    Uncommented language (left ++ right) where
  ended := (mode_after_append first.ended apart).trans second.ended
  kept := by
    have masked := mask_append false first.ended apart
    change stripComments language (left ++ right) =
      stripComments language left ++ stripComments language right at masked
    rw [masked, first.kept, second.kept]

theorem calm_free (language : Option Language) {c : Char} (calm : isCalm c = true) :
    c ≠ '/' ∧ c ≠ '*' ∧ c ∉ (Dialect.of language).quotes := by
  simp only [isCalm, Bool.and_eq_true, Bool.not_eq_true', bne_iff_ne] at calm
  refine ⟨calm.1.1.2, calm.1.2, fun quote => ?_⟩
  rw [quotes_are_quotes quote] at calm
  exact absurd calm.1.1.1 (by simp)

theorem append_calm {left right : List Char} (first : Uncommented language left)
    (calm : ∀ c ∈ right, isCalm c = true) : Uncommented language (left ++ right) :=
  first.append (of_calm calm)
    (.inr fun c head => calm_free language (calm c (List.mem_of_mem_head? head)))

theorem calm_append {left right : List Char} (calm : ∀ c ∈ left, isCalm c = true)
    (second : Uncommented language right) : Uncommented language (left ++ right) := by
  refine (of_calm calm).append second (.inl fun c last => ?_)
  have free := calm_free language (calm c (List.mem_of_mem_getLast? last))
  exact ⟨free.1, free.2.2⟩

/-- Calm characters keep what stands before them from what stands after. -/
theorem around_calm {left middle right : List Char} (first : Uncommented language left)
    (calm : ∀ c ∈ middle, isCalm c = true) (filled : middle ≠ [])
    (second : Uncommented language right) : Uncommented language (left ++ middle ++ right) := by
  refine (first.append_calm calm).append second (.inl fun c last => ?_)
  rw [List.getLast?_append, List.getLast?_eq_some_getLast filled, Option.some_or,
    ← List.getLast?_eq_some_getLast filled] at last
  have free := calm_free language (calm c (List.mem_of_mem_getLast? last))
  exact ⟨free.1, free.2.2⟩

end Uncommented

end EditImpact.Source
