import EditImpact.Proofs.Signature.GapClasses

/-!
# Signatures do not see comments

A text is masked alike with and without its comments, and signatures are read from what the masks
show. So a text can be replaced by its stripped form, and by any other text with that form.
-/

namespace EditImpact.Signature

open Source

set_option autoImplicit false

variable (language : Option Language) (name text : List Char)

theorem strip_comments_strip :
    stripComments language (stripComments language text) = stripComments language text :=
  mask_stripped language false text

theorem of_function_strip :
    ofFunction language name (stripComments language text) = ofFunction language name text := by
  rw [of_function_eq, of_function_eq, strip_comments_strip]

theorem of_class_strip :
    ofClass language name (stripComments language text) = ofClass language name text := by
  rw [of_class_eq, of_class_eq, strip_comments_strip]

/-- Comments can be blanked before a text is masked, once or more often, and texts that are the same
but for their comments have the same signatures. -/
theorem comments_do_not_matter (hideStrings : Bool) :
    mask language hideStrings (stripComments language text) = mask language hideStrings text ∧
      stripComments language (stripComments language text) = stripComments language text ∧
      ∀ other, stripComments language text = stripComments language other →
        ofFunction language name text = ofFunction language name other ∧
          ofClass language name text = ofClass language name other := by
  refine ⟨mask_stripped language hideStrings text, strip_comments_strip language text, ?_⟩
  intro other same
  constructor
  · rw [← of_function_strip, same, of_function_strip]
  · rw [← of_class_strip, same, of_class_strip]

/-- Headers, quotes and slashes do no harm inside a comment, and a default value with slashes in it
is seen behind it. -/
theorem comment_contents_do_not_matter :
    let first := "/* f(x) 'a */ const f = (b = '//') => 1\n".toList
    let second := "/*) = // \" */ const f = (b = '//') => 1\n".toList
    stripComments (some .javascript) first =
        "              const f = (b = '//') => 1\n".toList ∧
      ofFunction (some .javascript) "f".toList first = some "(_=)".toList ∧
      ofFunction (some .javascript) "f".toList second = some "(_=)".toList := by
  intro first second
  have found : ofFunction (some .javascript) "f".toList first = some "(_=)".toList := by
    decide +kernel
  obtain ⟨-, -, same⟩ := comments_do_not_matter (some .javascript) "f".toList first true
  obtain ⟨alike, -⟩ := same second (by decide)
  exact ⟨by decide, found, alike.symm.trans found⟩

end EditImpact.Signature
