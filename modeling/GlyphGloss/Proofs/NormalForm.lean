import GlyphGloss.Proofs.Codes

/-!
# The normal form of a field

A field is shown in a normal form: without braces and underscores, and with single spaces strictly
between its words. A text of this form is shown as it is, so that the normal forms are exactly the
shown fields, and showing a field again changes nothing. What stands between the spaces is the field
without its separators, in order; a field made of two with an underscore between them shows both,
one after the other.

## Main definitions

* `Text.IsSpaced`: the texts whose spaces stand one by one strictly between words.
* `Display.IsNormal`: the texts in normal form.

## Main results

* `Text.isSpaced_join`: words that are joined by single spaces.
* `Text.words_eq_splitAtEvery`: the words of a text with single spaces between them.
* `Display.field_eq_self_iff`: the normal forms are the fields that are shown as they are.
* `Display.filter_field`: what is shown between the spaces.
* `Display.field_append_cons`: two fields with an underscore between them.
* `Display.field_normal`: a field and its shown form.
-/

namespace GlyphGloss

/-! ### Single spaces -/

namespace Text

variable {t : Text}

/-- Whether each space of a text stands between two code points that are not blank. -/
def IsSpaced (t : Text) : Prop :=
  ∀ front back, t = front ++ ' ' :: back →
    (∃ c ∈ front.getLast?, isBlank c = false) ∧ ∃ c ∈ back.head?, isBlank c = false

/-- A text whose parts between spaces are words starts with the first and ends with the last of
these. -/
theorem exists_ends_of_splitAtEvery
    (h : ∀ part ∈ splitAtEvery ' ' t, part ≠ [] ∧ ∀ c ∈ part, isBlank c = false) :
    (∃ c ∈ t.head?, isBlank c = false) ∧ ∃ c ∈ t.getLast?, isBlank c = false := by
  have hjoin := join_splitAtEvery ' ' t
  have hne : splitAtEvery ' ' t ≠ [] := splitWhen_ne_nil _ t
  constructor
  · obtain ⟨part, parts, hparts⟩ := List.exists_cons_of_ne_nil hne
    obtain ⟨hpart, hletters⟩ := h part (hparts ▸ List.mem_cons_self)
    obtain ⟨c, rest, rfl⟩ := List.exists_cons_of_ne_nil hpart
    refine ⟨c, ?_, hletters c List.mem_cons_self⟩
    rw [← hjoin, hparts, head?_join_cons hpart]
    rfl
  · obtain ⟨parts, part, hparts⟩ := (List.eq_nil_or_concat' _).resolve_left hne
    obtain ⟨hpart, hletters⟩ := h part (hparts ▸ List.mem_concat_self)
    obtain ⟨c, hc⟩ := Option.isSome_iff_exists.1 (List.getLast?_isSome.2 hpart)
    refine ⟨c, ?_, hletters c (List.mem_of_getLast? hc)⟩
    rw [← hjoin, hparts, getLast?_join_concat hpart]
    exact hc

/-- Words that are joined by single spaces have them strictly between them. -/
theorem isSpaced_join {words : List Text} (hne : [] ∉ words)
    (hwords : ∀ word ∈ words, ∀ c ∈ word, isBlank c = false) : IsSpaced (join [' '] words) := by
  intro front back h
  have hsome : words ≠ [] := by
    rintro rfl
    exact absurd h (by simp [join])
  have hsplit : words = splitAtEvery ' ' front ++ splitAtEvery ' ' back := by
    calc words = splitAtEvery ' ' (join [' '] words) := by
          refine (splitAtEvery_join hsome fun word hword hspace => ?_).symm
          exact absurd (hwords word hword ' ' hspace) (by decide)
      _ = splitAtEvery ' ' (front ++ ' ' :: back) := by rw [h]
      _ = splitAtEvery ' ' front ++ splitAtEvery ' ' back :=
          splitWhen_append_cons (· == ' ') (by decide) front back
  have hparts (part : Text) (hpart : part ∈ words) :
      part ≠ [] ∧ ∀ c ∈ part, isBlank c = false :=
    ⟨fun hnil => hne (hnil ▸ hpart), hwords part hpart⟩
  rw [hsplit] at hparts
  exact ⟨(exists_ends_of_splitAtEvery fun part hpart =>
      hparts part (List.mem_append_left _ hpart)).2,
    (exists_ends_of_splitAtEvery fun part hpart => hparts part (List.mem_append_right _ hpart)).1⟩

/-- Two neighbouring spaces, and a space at an end, would leave an empty part. -/
theorem IsSpaced.nil_notMem (h : IsSpaced t) (ht : t ≠ []) : [] ∉ splitAtEvery ' ' t := by
  intro hnil
  obtain ⟨before, behind, hparts⟩ := List.append_of_mem hnil
  have hjoin := join_splitAtEvery ' ' t
  rw [hparts] at hjoin
  by_cases hbefore : before = []
  · -- The text starts with a space if it does not end with the empty part.
    rw [hbefore, List.nil_append, join_cons, List.nil_append] at hjoin
    cases behind with
    | nil => exact ht hjoin.symm
    | cons part parts =>
      obtain ⟨⟨c, hc, -⟩, -⟩ := h [] (part ++ parts.flatMap ([' '] ++ ·)) (by
        rw [← hjoin]
        simp)
      exact absurd hc (by simp)
  · -- Behind the space in front of the empty part nothing follows, or the next space.
    rw [join_append hbefore (List.cons_ne_nil _ _), join_cons, List.nil_append,
      List.append_assoc] at hjoin
    obtain ⟨-, c, hc, hletter⟩ := h _ _ hjoin.symm
    cases behind with
    | nil => exact absurd hc (by simp)
    | cons part parts =>
      obtain rfl : ' ' = c := by simpa using hc
      exact absurd hletter (by decide)

/-- If single spaces are the only blanks of a text, its words are its parts between spaces. -/
theorem words_eq_splitAtEvery (hspace : ∀ c ∈ t, isBlank c → c = ' ') (h : IsSpaced t)
    (ht : t ≠ []) : words t = splitAtEvery ' ' t := by
  have hcut : splitWhen isBlank t = splitAtEvery ' ' t := by
    refine splitWhen_congr fun c hc => ?_
    rw [Bool.eq_iff_iff, beq_iff_eq]
    exact ⟨hspace c hc, by rintro rfl; decide⟩
  rw [words, hcut, List.filter_eq_self]
  intro part hpart
  simpa using fun hnil : part = [] => h.nil_notMem ht (hnil ▸ hpart)

end Text

/-! ### Normal forms -/

namespace Display

variable {c : Char} {t : Text}

/-- Whether a text is in normal form. -/
structure IsNormal (t : Text) : Prop where
  /-- It has neither braces nor underscores, and no blanks but spaces. -/
  plain : AllPlain t
  /-- Its spaces stand one by one strictly between its words. -/
  spaced : Text.IsSpaced t

theorem symbol_of_isPlain (h : IsPlain c) : symbol c = c := by
  have hbrace : ¬(c = '{' ∨ c = '}') := fun hc => Bool.eq_false_iff.1 h.noBrace (isBrace_iff.2 hc)
  rw [not_or] at hbrace
  rw [symbol, if_neg hbrace.1, if_neg hbrace.2, if_neg h.noUnderscore]

theorem fieldWords_of_allPlain (h : AllPlain t) : fieldWords t = Text.words t := by
  rw [fieldWords, List.map_congr_left fun c hc => symbol_of_isPlain (h c hc), List.map_id']

/-- The shown form of a field is in normal form. -/
theorem isNormal_field (t : Text) : IsNormal (field t) :=
  ⟨allPlain_field t, Text.isSpaced_join (Text.nil_notMem_words _) fun word hword _ hc =>
    (Text.exists_mem_words.1 ⟨word, hword, hc⟩).2⟩

/-- A normal form is shown as it is. -/
theorem field_of_isNormal (h : IsNormal t) : field t = t := by
  by_cases ht : t = []
  · rw [ht, field_nil]
  · rw [field, fieldWords_of_allPlain h.plain,
      Text.words_eq_splitAtEvery (fun c hc => (h.plain c hc).space) h.spaced ht,
      Text.join_splitAtEvery]

/-- The normal forms are the fields that are shown as they are. -/
theorem field_eq_self_iff : field t = t ↔ IsNormal t :=
  ⟨fun h => h ▸ isNormal_field t, field_of_isNormal⟩

instance : DecidablePred IsNormal := fun _ => decidable_of_iff _ field_eq_self_iff

/-! ### What is shown -/

/-- Between the spaces a field shows what does not separate its words, in order, with angle brackets
for braces. -/
theorem filter_field (t : Text) :
    (field t).filter (· ≠ ' ') = (t.filter fun c => !isBlank c && c ≠ '_').map angled := by
  have hletters : ∀ word ∈ fieldWords t, ∀ c ∈ word, decide (c ≠ ' ') = true := by
    intro word hword c hc
    have hletter := (Text.exists_mem_words.1 ⟨word, hword, hc⟩).2
    rw [decide_eq_true_eq]
    rintro rfl
    exact absurd hletter (by decide)
  calc (field t).filter (· ≠ ' ') = (fieldWords t).flatten := Text.filter_join (by simp) hletters
    _ = (codeWords t).flatten.map angled := by rw [fieldWords_eq, List.map_flatten]
    _ = (t.filter fun c => !isBlank c && c ≠ '_').map angled := by
      rw [codeWords, List.flatten_filter_not_isEmpty, Text.flatten_splitWhen]
      simp only [Bool.not_or, ne_eq, decide_not, beq_eq_decide]

theorem fieldWords_append_cons (t more : Text) :
    fieldWords (t ++ '_' :: more) = fieldWords t ++ fieldWords more := by
  rw [fieldWords, List.map_append, List.map_cons, Text.words_append_cons (by decide)]
  rfl

/-- Two fields with an underscore between them are shown one after the other. -/
theorem field_append_cons (t more : Text) :
    field (t ++ '_' :: more) = Text.join [' '] ([field t, field more].filter (!·.isEmpty)) := by
  rw [field, fieldWords_append_cons]
  exact Text.join_append_eq_join (Text.nil_notMem_words _) (Text.nil_notMem_words _)

/-- Without tone marks a pronunciation is shown like any field. -/
theorem pronunciation_false (toTone : Text → Text) (t : Text) :
    pronunciation toTone false t = field t := by
  rw [pronunciation, words_field]
  rfl

/-- **A field is shown in normal form.** Its shown form has neither braces nor underscores, and its
only blanks are single spaces strictly between its words; the texts of this form are shown as they
are, and so is the shown form itself. But for the spaces it is the field without blanks and
underscores, in order and with angle brackets for braces. A field with an underscore in it shows
what stands before it and what stands behind it, with a space between them if both show something.
A pronunciation without tone marks is shown like any field, however syllables are converted. -/
theorem field_normal (t : Text) :
    field (field t) = field t ∧ IsNormal (field t) ∧ (field t = t ↔ IsNormal t) ∧
      (field t).filter (· ≠ ' ') = (t.filter fun c => !isBlank c && c ≠ '_').map angled ∧
      (∀ more : Text, field (t ++ '_' :: more) =
        Text.join [' '] ([field t, field more].filter (!·.isEmpty))) ∧
      ∀ toTone, pronunciation toTone false t = field t :=
  ⟨field_of_isNormal (isNormal_field t), isNormal_field t, field_eq_self_iff, filter_field t,
    field_append_cons t, fun toTone => pronunciation_false toTone t⟩

example : field "_ \x7ba\x7d__b\u3000c\x7d\t".toList = "<a> b c>".toList ∧
    ¬IsNormal "a  b".toList := by
  decide

end Display

end GlyphGloss
