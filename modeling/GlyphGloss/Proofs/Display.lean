import GlyphGloss.Annotator
import GlyphGloss.Display.Tone
import GlyphGloss.Proofs.Composition
import GlyphGloss.Proofs.Record.Component

/-!
# What annotations show

Records are written with braces around the names of units, with underscores between alternates, and
with any blanks. Fields and pronunciations are shown without these marks: each of their forms is
made of plain code points, whatever the record says, and of what the conversion of syllables gives.
The codes of a phrase are cut at underscores and blanks but are shown as they are otherwise. So if
syllables are converted to plain texts, a brace in an annotation is always one of the composed code.

## Main definitions

* `Display.IsPlain`, `Display.AllPlain`: the code points that are no marks, and the texts of such.
* `Display.IsSolid`, `Display.AllSolid`: those that are no blanks either.
* `Display.IsConverted`: the code points that the conversion of syllables gives.

## Main results

* `Tone.allSolid_convert`: the tone marks of the program bring no marks of records and no blanks.
* `Display.isPlain_or_of_mem_records`: the shown forms of records are plain but for converted
  syllables.
* `Display.isPlain_or_of_mem_phrase`: the shown form of a phrase is plain but for its codes.
* `Composition.exists_of_mem_compose`: where the code points of a composition come from.
* `Annotator.mem_note_cases`: where the code points of an annotation come from.
* `Annotator.note_shown`: what an annotation shows.
-/

namespace GlyphGloss

namespace Display

variable {c : Char} {t : Text}

/-! ### Plain texts -/

/-- Whether a code point is no mark: neither a brace nor an underscore, nor a blank other than the
space. -/
structure IsPlain (c : Char) : Prop where
  /-- It is not a brace. -/
  noBrace : Component.isBrace c = false
  /-- It is not an underscore. -/
  noUnderscore : c ≠ '_'
  /-- If it is blank, it is the space. -/
  space : isBlank c → c = ' '

instance : DecidablePred IsPlain := fun c =>
  decidable_of_iff (Component.isBrace c = false ∧ c ≠ '_' ∧ (isBlank c → c = ' '))
    ⟨fun ⟨hbrace, hunderscore, hblank⟩ => ⟨hbrace, hunderscore, hblank⟩,
      fun h => ⟨h.noBrace, h.noUnderscore, h.space⟩⟩

/-- Whether a code point is neither a mark nor a blank. -/
structure IsSolid (c : Char) : Prop extends IsPlain c where
  /-- It is not blank. -/
  noBlank : isBlank c = false

instance : DecidablePred IsSolid := fun c =>
  decidable_of_iff (IsPlain c ∧ isBlank c = false)
    ⟨fun ⟨hplain, hblank⟩ => ⟨hplain, hblank⟩, fun h => ⟨h.toIsPlain, h.noBlank⟩⟩

/-- Whether all code points of a text are plain. -/
def AllPlain (t : Text) : Prop :=
  ∀ c ∈ t, IsPlain c

instance : DecidablePred AllPlain := fun t =>
  decidable_of_iff (t.all fun c => decide (IsPlain c)) (by simp [AllPlain])

/-- Whether all code points of a text are solid. -/
def AllSolid (t : Text) : Prop :=
  ∀ c ∈ t, IsSolid c

instance : DecidablePred AllSolid := fun t =>
  decidable_of_iff (t.all fun c => decide (IsSolid c)) (by simp [AllSolid])

theorem AllSolid.allPlain (ht : AllSolid t) : AllPlain t :=
  fun c hc => (ht c hc).toIsPlain

theorem AllPlain.of_subset (ht : AllPlain t) {u : Text} (hsub : u ⊆ t) : AllPlain u :=
  fun c hc => ht c (hsub hc)

theorem AllPlain.append {u : Text} (ht : AllPlain t) (hu : AllPlain u) : AllPlain (t ++ u) :=
  List.forall_mem_append.2 ⟨ht, hu⟩

/-- Joined plain parts are plain. -/
theorem AllPlain.join {sep : Text} {parts : List Text} (hsep : AllPlain sep)
    (hparts : ∀ part ∈ parts, AllPlain part) : AllPlain (Text.join sep parts) := by
  intro c hc
  rcases Text.mem_join hc with hc | ⟨part, hpart, hc⟩
  · exact hsep c hc
  · exact hparts part hpart c hc

/-- The words of a plain text are plain. -/
theorem AllPlain.of_mem_words (ht : AllPlain t) {word : Text} (hword : word ∈ Text.words t) :
    AllPlain word :=
  ht.of_subset fun _ hc => (Text.exists_mem_words.1 ⟨word, hword, hc⟩).1

/-- Braces and underscores are shown by other code points. -/
theorem isPlain_symbol (h : isBlank (symbol c) = false) : IsPlain (symbol c) := by
  unfold symbol at h ⊢
  split_ifs at h ⊢ with hopening hclosing hunderscore
  · decide
  · decide
  · exact absurd h (by decide)
  · exact ⟨by simp [Component.isBrace, hopening, hclosing], hunderscore, fun hblank =>
      absurd hblank (Bool.eq_false_iff.1 h)⟩

/-- The shown form of a field is plain. -/
theorem allPlain_field (t : Text) : AllPlain (field t) := by
  refine AllPlain.join (by decide) fun word hword c hc => ?_
  obtain ⟨hmem, hblank⟩ := Text.exists_mem_words.1 ⟨word, hword, hc⟩
  obtain ⟨d, -, rfl⟩ := List.mem_map.1 hmem
  exact isPlain_symbol hblank

end Display

/-! ### Tone marks -/

namespace Tone

open Display

variable {c letter number : Char} {t marks : Text}

theorem isSolid_shownLetter (h : IsSolid c) : IsSolid (shownLetter c) := by
  unfold shownLetter
  split_ifs
  · decide
  · exact h

theorem isSolid_plainLetter (h : IsSolid c) : IsSolid (plainLetter c) := by
  unfold plainLetter
  split_ifs
  · decide
  · exact h

theorem allSolid_map_shownLetter (ht : AllSolid t) : AllSolid (t.map shownLetter) :=
  List.forall_mem_map.2 fun c hc => isSolid_shownLetter (ht c hc)

theorem allSolid_marked : ∀ entry ∈ marked, ∀ marks ∈ entry.2, AllSolid marks := by
  decide

theorem allSolid_mark? {tone : Nat} (h : mark? letter tone = some marks) : AllSolid marks := by
  obtain ⟨hmarks, -⟩ := Option.filter_eq_some_iff.1 h
  obtain ⟨row, hrow, hmarks⟩ := Option.bind_eq_some_iff.1 hmarks
  obtain ⟨before, after, hmarked, -⟩ := List.lookup_eq_some_iff.1 hrow
  have hentry : (letter, row) ∈ marked := by simp [hmarked]
  exact allSolid_marked _ hentry marks (List.mem_of_getElem? hmarks)

theorem allSolid_carrier (hletter : IsSolid letter) (hnumber : IsSolid number) :
    AllSolid (carrier letter number) := by
  have hshown := isSolid_shownLetter hletter
  unfold carrier
  split_ifs
  · exact List.forall_mem_singleton.2 hshown
  · cases hmark : mark? letter (number.toNat - '0'.toNat) with
    | none => exact List.forall_mem_cons.2 ⟨hshown, List.forall_mem_singleton.2 hnumber⟩
    | some marks => exact allSolid_mark? hmark

theorem allSolid_withMark (ht : AllSolid t) (hnumber : IsSolid number) :
    AllSolid (withMark t number) := by
  have hletters : AllSolid (t.map plainLetter) :=
    List.forall_mem_map.2 fun c hc => isSolid_plainLetter (ht c hc)
  have hcarrier : AllSolid ((t.map plainLetter)[place (t.map plainLetter)]?.elim [number]
      fun letter => carrier letter number) := by
    cases hletter : (t.map plainLetter)[place (t.map plainLetter)]? with
    | none => exact List.forall_mem_singleton.2 hnumber
    | some letter =>
      exact allSolid_carrier (hletters letter (List.mem_of_getElem? hletter)) hnumber
  refine List.forall_mem_append.2 ⟨List.forall_mem_append.2 ⟨?_, hcarrier⟩, ?_⟩
  · exact allSolid_map_shownLetter fun c hc => hletters c (List.take_subset _ _ hc)
  · exact allSolid_map_shownLetter fun c hc => hletters c (List.drop_subset _ _ hc)

/-- Digits and small letters are solid. -/
theorem isSolid_of_toNat (h : 0x30 ≤ c.toNat ∧ c.toNat ≤ 0x39 ∨ 0x61 ≤ c.toNat ∧ c.toNat ≤ 0x7A) :
    IsSolid c := by
  have hblank : isBlank c = false := by
    rw [Bool.eq_false_iff]
    simp only [isBlank, ne_eq, Bool.or_eq_true, Bool.and_eq_true, decide_eq_true_eq, beq_iff_eq]
    omega
  refine ⟨⟨?_, ?_, fun h => absurd h (Bool.eq_false_iff.1 hblank)⟩, hblank⟩
  · rw [Component.isBrace, Bool.or_eq_false_iff, beq_eq_false_iff_ne, beq_eq_false_iff_ne]
    constructor <;> rintro rfl <;> revert h <;> decide
  · rintro rfl
    revert h
    decide

theorem isSolid_of_isSyllableLetter (h : isSyllableLetter c = true) : IsSolid c := by
  rw [isSyllableLetter, Bool.or_eq_true, Bool.and_eq_true, decide_eq_true_eq, decide_eq_true_eq,
    beq_iff_eq] at h
  obtain ⟨hlow, hhigh⟩ | rfl := h
  · exact isSolid_of_toNat (.inr ⟨hlow, hhigh⟩)
  · decide

theorem isSolid_of_isToneNumber (h : isToneNumber c = true) : IsSolid c := by
  rw [isToneNumber, Bool.and_eq_true, decide_eq_true_eq, decide_eq_true_eq] at h
  have hlow : 0x31 ≤ c.toNat := h.1
  have hhigh : c.toNat ≤ 0x35 := h.2
  exact isSolid_of_toNat (.inl ⟨by omega, by omega⟩)

/-- A syllable with a tone mark for its tone number has no marks of records and no blanks. -/
theorem allSolid_convert (h : isNumbered t = true) : AllSolid (convert t) := by
  unfold convert
  cases hlast : t.getLast? with
  | none => simp [isNumbered, hlast] at h
  | some number =>
    dsimp only
    rw [if_pos h]
    simp only [isNumbered, hlast, Bool.and_eq_true] at h
    obtain ⟨⟨htone, -⟩, hletters⟩ := h
    exact allSolid_withMark
      (fun c hc => isSolid_of_isSyllableLetter (List.all_eq_true.1 hletters c hc))
      (isSolid_of_isToneNumber htone)

end Tone

namespace Display

variable {toTone : Text → Text} {toneMarks : Bool} {level : Int} {c : Char} {t : Text}

/-! ### Records -/

/-- The code points that the conversion of syllables gives. -/
def IsConverted (toTone : Text → Text) (c : Char) : Prop :=
  ∃ syllable, isNumbered syllable = true ∧ c ∈ toTone syllable

/-- The shown form of a pronunciation is plain but for converted syllables. -/
theorem isPlain_or_of_mem_pronunciation (hc : c ∈ pronunciation toTone toneMarks t) :
    IsPlain c ∨ IsConverted toTone c := by
  have hwords (word : Text) (hword : word ∈ Text.words (field t)) : AllPlain word :=
    (allPlain_field t).of_mem_words hword
  rcases Text.mem_join hc with hspace | ⟨shown, hshown, hmem⟩
  · rw [List.mem_singleton.1 hspace]
    exact .inl (by decide)
  · cases toneMarks with
    | false => exact .inl (hwords shown hshown c hmem)
    | true =>
      obtain ⟨word, hword, rfl⟩ := List.mem_map.1 hshown
      split_ifs at hmem with hnumbered
      · exact .inr ⟨word, hnumbered, hmem⟩
      · exact .inl (hwords word hword c hmem)

/-- Parts between corner brackets stand there as they are, with plain code points around them. -/
theorem isPlain_or_of_mem_wrap {parts : List Text} (hc : c ∈ wrap parts) :
    IsPlain c ∨ ∃ part ∈ parts, c ∈ part := by
  have hopening : AllPlain opening := by decide
  have hseparator : AllPlain separator := by decide
  have hclosing : AllPlain closing := by decide
  unfold wrap at hc
  split at hc
  · exact absurd hc List.not_mem_nil
  · rw [List.mem_append, List.mem_append] at hc
    rcases hc with (hc | hc) | hc
    · exact .inl (hopening c hc)
    · rcases Text.mem_join hc with hc | ⟨part, hpart, hc⟩
      · exact .inl (hseparator c hc)
      · exact .inr ⟨part, List.mem_of_mem_filter hpart, hc⟩
    · exact .inl (hclosing c hc)

theorem isPlain_or_of_mem_record {r : Record} (hc : c ∈ record toTone level toneMarks r) :
    IsPlain c ∨ IsConverted toTone c := by
  obtain hplain | ⟨part, hpart, hc⟩ := isPlain_or_of_mem_wrap hc
  · exact .inl hplain
  · obtain ⟨i, hi, rfl⟩ := List.mem_mapIdx.1 hpart
    split_ifs at hc
    · exact isPlain_or_of_mem_pronunciation hc
    · exact .inl (allPlain_field _ c hc)

/-- The shown forms of records are plain but for converted syllables. -/
theorem isPlain_or_of_mem_records {rs : List Record}
    (hc : c ∈ records toTone level toneMarks rs) : IsPlain c ∨ IsConverted toTone c := by
  rcases Text.mem_join hc with hspace | ⟨shown, hshown, hc⟩
  · rw [List.mem_singleton.1 hspace]
    exact .inl (by decide)
  · obtain ⟨r, -, rfl⟩ := List.mem_map.1 (List.mem_of_mem_filter hshown)
    exact isPlain_or_of_mem_record hc

/-! ### Phrases -/

/-- The code points of the codes of a phrase are those that do not separate codes. -/
theorem exists_mem_codes {code : Text} :
    (∃ word ∈ codes code, c ∈ word) ↔ c ∈ code ∧ isBlank c = false ∧ c ≠ '_' := by
  have hwords := Text.exists_mem_filter_splitWhen (c := c) (t := code)
    (p := fun c => isBlank c || c == '_')
  simp only [Bool.or_eq_false_iff, beq_eq_false_iff_ne] at hwords
  rw [← hwords]
  simp only [codes, (List.mergeSort_perm _ _).mem_iff, codeWords]

/-- The first level shows the spelling of a phrase only. -/
theorem phrase_one (spelling : Text) (code : Option Text) :
    phrase spelling code 1 = opening ++ field spelling ++ closing := by
  simp [phrase]

/-- All levels but the first one show a phrase alike. -/
theorem phrase_of_ne_one {level : Int} (h : level ≠ 1) (spelling : Text) (code : Option Text) :
    phrase spelling code level =
      if codes (code.getD []) = [] then altOpening ++ field spelling ++ altClosing
      else opening ++ field spelling ++ separator ++ Text.join [' '] (codes (code.getD [])) ++
        closing := by
  rw [phrase, if_neg h]
  cases codes (code.getD []) <;> rfl

/-- The shown form of a phrase is plain but for its codes, which have no underscores and blanks. -/
theorem isPlain_or_of_mem_phrase {spelling : Text} {code : Option Text} {level : Int}
    (hc : c ∈ phrase spelling code level) :
    IsPlain c ∨ level ≠ 1 ∧ c ∈ code.getD [] ∧ isBlank c = false ∧ c ≠ '_' := by
  have hspelling := allPlain_field spelling
  have hopening : AllPlain opening := by decide
  have hclosing : AllPlain closing := by decide
  by_cases hlevel : level = 1
  · rw [hlevel, phrase_one] at hc
    exact .inl ((hopening.append hspelling).append hclosing c hc)
  · rw [phrase_of_ne_one hlevel] at hc
    split_ifs at hc
    · have haltOpening : AllPlain altOpening := by decide
      have haltClosing : AllPlain altClosing := by decide
      exact .inl ((haltOpening.append hspelling).append haltClosing c hc)
    · have hseparator : AllPlain separator := by decide
      rw [List.mem_append, List.mem_append] at hc
      rcases hc with (hc | hc) | hc
      · exact .inl ((hopening.append hspelling).append hseparator c hc)
      · rcases Text.mem_join hc with hc | ⟨word, hword, hc⟩
        · have hspace : AllPlain [' '] := by decide
          exact .inl (hspace c hc)
        · exact .inr ⟨hlevel, exists_mem_codes.1 ⟨word, hword, hc⟩⟩
      · exact .inl (hclosing c hc)

/-- From the second level on, the codes of a phrase are shown. -/
theorem mem_phrase_of_mem_code {code : Text} {level : Int} (hlevel : level ≠ 1) (hc : c ∈ code)
    (hblank : isBlank c = false) (hunderscore : c ≠ '_') (spelling : Text) :
    c ∈ phrase spelling (some code) level := by
  obtain ⟨word, hword, hmem⟩ := exists_mem_codes.2 ⟨hc, hblank, hunderscore⟩
  rw [phrase_of_ne_one hlevel, Option.getD_some, if_neg (List.ne_nil_of_mem hword)]
  simp only [List.mem_append]
  exact .inl (.inr (Text.mem_join_of_mem hword hmem))

theorem isBrace_iff : Component.isBrace c ↔ c = '{' ∨ c = '}' := by
  simp [Component.isBrace]

/-- The braces in the shown form of a phrase are those of its code, which the first level hides. -/
theorem brace_mem_phrase_iff {spelling : Text} {code : Option Text} {level : Int}
    (hbrace : Component.isBrace c) :
    c ∈ phrase spelling code level ↔ level ≠ 1 ∧ ∃ found ∈ code, c ∈ found := by
  have hmark : isBlank c = false ∧ c ≠ '_' := by
    rcases isBrace_iff.1 hbrace with rfl | rfl <;> decide
  constructor
  · intro hc
    rcases isPlain_or_of_mem_phrase hc with hplain | ⟨hlevel, hcode, -⟩
    · exact absurd hbrace (Bool.eq_false_iff.1 hplain.noBrace)
    · cases code with
      | none => exact absurd hcode List.not_mem_nil
      | some found => exact ⟨hlevel, found, rfl, hcode⟩
  · rintro ⟨hlevel, found, rfl, hcode⟩
    exact mem_phrase_of_mem_code hlevel hcode hmark.1 hmark.2 spelling

end Display

/-! ### Where compositions come from -/

/-- A component of the codes of a record holds code points of its code field only. -/
theorem Record.mem_code_of_mem_components {c : Char} {component : Text} {r : Record}
    {extract : Extract} (hextract : extract ≠ .spelling) (h : component ∈ r.components extract)
    (hc : c ∈ component) : c ∈ r.code := by
  cases extract with
  | spelling => exact absurd rfl hextract
  | literal => exact Component.mem_of_mem_split h hc
  | terse =>
    unfold components at h
    cases halternate : r.alternates.head? with
    | none =>
      rw [halternate] at h
      exact absurd h List.not_mem_nil
    | some alternate =>
      rw [halternate] at h
      have halternate := List.mem_of_head? halternate
      have hmem := Component.mem_of_mem_split h hc
      exact (Text.exists_mem_filter_splitWhen.1 ⟨alternate, halternate, hmem⟩).1

/-- The code points of a composition are those of the placeholder and of components of characters of
the phrase. -/
theorem Composition.exists_of_mem_compose {c : Char} {table : RuleTable} {lookup : Text → Text}
    {extract : Extract} {phrase composed : Text}
    (h : compose table lookup extract phrase = .ok composed) (hc : c ∈ composed) :
    c ∈ placeholder ∨ ∃ x ∈ phrase, ∃ component ∈ Record.firstComponents (lookup [x]) extract,
      c ∈ component := by
  obtain ⟨formula, -, -, rfl⟩ := (compose_eq_ok_iff table lookup extract phrase composed).1 h
  obtain ⟨i, -, hc⟩ := List.mem_flatMap.1 hc
  rcases selected_eq_or_mem lookup extract phrase i with hplaceholder | ⟨raw, hraw, hcomponent⟩
  · exact .inl (hplaceholder ▸ hc)
  · obtain ⟨x, hx, rfl⟩ := Option.map_eq_some_iff.1 hraw
    exact .inr ⟨x, Position.mem_of_item? hx, _, hcomponent, hc⟩

/-! ### Annotations -/

namespace Annotator

open Display

variable {a : Annotator} {lookup : Text → Text} {level : Int} {t shown : Text}

/-- The annotation of a phrase shows the composed spelling, and the composed code if there is one
and the level shows it. -/
theorem phraseNote_text {composed : Text}
    (h : Composition.compose a.rules lookup .spelling t = .ok composed) :
    (a.phraseNote lookup level t).text = some
      (phrase composed (Composition.compose a.rules lookup a.codePart t).toOption level) := by
  rw [phraseNote, h]
  dsimp only
  split_ifs with hlevel
  · rw [hlevel, phrase_one, phrase_one]
  · cases Composition.compose a.rules lookup a.codePart t <;> rfl

/-- What an annotation can be: the records of a character, nothing, or a composed spelling with the
composed code, if there is one and the level shows it. -/
theorem note_cases (h : (a.note lookup level t).text = some shown) :
    (t.length = 1 ∧ ∃ rs, shown = records a.toTone level a.toneMarks rs) ∨
    (t.length ≠ 1 ∧ a.phrases = false ∧ shown = []) ∨
    (t.length ≠ 1 ∧ a.phrases = true ∧ ∃ composed code, shown = phrase composed code level ∧
      (level ≠ 1 → ∀ found, found ∈ code ↔
        Composition.compose a.rules lookup a.codePart t = .ok found)) := by
  unfold note at h
  split_ifs at h with hlength hphrases hempty
  · unfold characterNote at h
    split at h
    · exact absurd h nofun
    · exact .inl ⟨hlength, _, (Option.some.inj h).symm⟩
  · exact .inr (.inl ⟨hlength, by simpa using hphrases, (Option.some.inj h).symm⟩)
  · refine .inr (.inr ⟨hlength, by simpa using hphrases, ?_⟩)
    cases hspelling : Composition.compose a.rules lookup .spelling t with
    | error gap => simp [phraseNote, hspelling] at h
    | ok composed =>
      rw [phraseNote_text hspelling] at h
      refine ⟨composed, _, (Option.some.inj h).symm, fun _ found => ?_⟩
      cases Composition.compose a.rules lookup a.codePart t <;> simp [Except.toOption]

/-- The code points of an annotation are plain, those of a converted syllable, or those of a code,
which has no underscores and blanks. -/
theorem mem_note_cases (h : (a.note lookup level t).text = some shown) {c : Char}
    (hc : c ∈ shown) : IsPlain c ∨ IsConverted a.toTone c ∨ isBlank c = false ∧ c ≠ '_' := by
  obtain ⟨-, rs, rfl⟩ | ⟨-, -, rfl⟩ | ⟨-, -, composed, code, rfl, -⟩ := note_cases h
  · exact (isPlain_or_of_mem_records hc).imp_right .inl
  · exact absurd hc List.not_mem_nil
  · obtain hplain | ⟨-, -, hcode⟩ := isPlain_or_of_mem_phrase hc
    · exact .inl hplain
    · exact .inr (.inr hcode)

/-- The only blanks of an annotation are spaces, if converted syllables have no others. -/
theorem space_of_mem_note (h : (a.note lookup level t).text = some shown)
    (htone : ∀ c, IsConverted a.toTone c → isBlank c → c = ' ') {c : Char} (hc : c ∈ shown)
    (hblank : isBlank c) : c = ' ' := by
  obtain hplain | hconverted | ⟨hcode, -⟩ := mem_note_cases h hc
  · exact hplain.space hblank
  · exact htone c hconverted hblank
  · exact absurd hblank (Bool.eq_false_iff.1 hcode)

section Plain

variable (htone : ∀ syllable, isNumbered syllable = true → AllPlain (a.toTone syllable))
include htone

theorem isPlain_of_isConverted {c : Char} (h : IsConverted a.toTone c) : IsPlain c := by
  obtain ⟨syllable, hnumbered, hc⟩ := h
  exact htone syllable hnumbered c hc

/-- The only blanks of an annotation are spaces, and it has no underscores. -/
theorem tidy_of_mem_note (h : (a.note lookup level t).text = some shown) {c : Char}
    (hc : c ∈ shown) : c ≠ '_' ∧ (isBlank c → c = ' ') := by
  refine ⟨?_, space_of_mem_note h (fun c hc => (isPlain_of_isConverted htone hc).space) hc⟩
  obtain hplain | hconverted | ⟨-, hunderscore⟩ := mem_note_cases h hc
  · exact hplain.noUnderscore
  · exact (isPlain_of_isConverted htone hconverted).noUnderscore
  · exact hunderscore

/-- The braces of an annotation are those of the composed code that it shows. -/
theorem brace_mem_note_iff (h : (a.note lookup level t).text = some shown) {c : Char}
    (hbrace : Component.isBrace c) :
    c ∈ shown ↔ t.length ≠ 1 ∧ a.phrases ∧ level ≠ 1 ∧ ∃ code,
      Composition.compose a.rules lookup a.codePart t = .ok code ∧ c ∈ code := by
  obtain ⟨hlength, rs, rfl⟩ | ⟨-, hphrases, rfl⟩ |
    ⟨hlength, hphrases, composed, code, rfl, hcode⟩ := note_cases h
  · refine ⟨fun hc => ?_, fun hphrase => absurd hlength hphrase.1⟩
    have hplain : IsPlain c :=
      (isPlain_or_of_mem_records hc).elim id (isPlain_of_isConverted htone)
    exact absurd hbrace (Bool.eq_false_iff.1 hplain.noBrace)
  · simp [hphrases]
  · rw [brace_mem_phrase_iff hbrace]
    constructor
    · rintro ⟨hlevel, found, hfound, hc⟩
      exact ⟨hlength, hphrases, hlevel, found, (hcode hlevel found).1 hfound, hc⟩
    · rintro ⟨-, -, hlevel, found, hfound, hc⟩
      exact ⟨hlevel, found, (hcode hlevel found).2 hfound, hc⟩

end Plain

/-- **What an annotation shows.** Let syllables be converted to plain texts. Then an annotation has
no underscore, and no blank but the space. A brace in it is one of a composed code: it stands in the
annotation of a phrase, from the second level on, exactly if it stands in the code composed for the
phrase. Such a brace comes from the code field of the first record of a character of the phrase. -/
theorem note_shown (a : Annotator) (lookup : Text → Text) (level : Int) (t : Text)
    (htone : ∀ syllable, isNumbered syllable = true → AllPlain (a.toTone syllable)) :
    ∀ shown ∈ (a.note lookup level t).text,
      (∀ c ∈ shown, c ≠ '_' ∧ (isBlank c → c = ' ')) ∧
      (∀ c, Component.isBrace c →
        (c ∈ shown ↔ t.length ≠ 1 ∧ a.phrases ∧ level ≠ 1 ∧ ∃ code,
          Composition.compose a.rules lookup a.codePart t = .ok code ∧ c ∈ code)) ∧
      (a.codePart ≠ .spelling → ∀ c ∈ shown, Component.isBrace c →
        ∃ x ∈ t, ∃ r, Record.readFirst? (lookup [x]) = some r ∧ c ∈ r.code) := by
  intro shown h
  refine ⟨fun c => tidy_of_mem_note htone h, fun c => brace_mem_note_iff htone h, ?_⟩
  intro hpart c hc hbrace
  obtain ⟨-, -, -, code, hcode, hmem⟩ := (brace_mem_note_iff htone h hbrace).1 hc
  rcases Composition.exists_of_mem_compose hcode hmem with hplaceholder | hfound
  · have hplain : AllPlain Composition.placeholder := by decide
    exact absurd hbrace (Bool.eq_false_iff.1 (hplain c hplaceholder).noBrace)
  · obtain ⟨x, hx, component, hcomponent, hmem⟩ := hfound
    obtain ⟨r, hr, hcomponent⟩ := Record.exists_of_mem_firstComponents hcomponent
    exact ⟨x, hx, r, hr, Record.mem_code_of_mem_components hpart hcomponent hmem⟩

/-- A table whose only formula takes the first components of two characters. -/
def firstComponentsOfTwo : RuleTable :=
  ⟨(∅ : Std.TreeMap Int Formula).insert 2 [⟨1, 1⟩, ⟨2, 1⟩]⟩

/-- The records of a character with a unit among its codes, and of another one. -/
def unitInCode : Lexicon :=
  Lexicon.ofRows [(['中'], "[\x7b口\x7d丨,\x7bab\x7dc]".toList), (['国'], "[囗,g]".toList)]

/-- A brace in the composed code is seen in the annotation. -/
theorem brace_mem_note_unitInCode :
    let a : Annotator := ⟨firstComponentsOfTwo, true, false, false, .literal, Tone.convert⟩
    ∃ shown ∈ (a.note unitInCode.lookup 3 ['中', '国']).text, '\x7b' ∈ shown ∧ '_' ∉ shown := by
  intro a
  have hsome : (a.note unitInCode.lookup 3 ['中', '国']).text.isSome := by decide +kernel
  obtain ⟨shown, hshown⟩ := Option.isSome_iff_exists.1 hsome
  have hcode : Composition.compose a.rules unitInCode.lookup .literal ['中', '国'] =
      .ok "\x7bab\x7dg".toList := by decide +kernel
  obtain ⟨htidy, hbrace, -⟩ := note_shown a unitInCode.lookup 3 ['中', '国']
    (fun _ h => (Tone.allSolid_convert h).allPlain) shown hshown
  refine ⟨shown, hshown, (hbrace '\x7b' rfl).2 ?_, fun h => (htidy '_' h).1 rfl⟩
  exact ⟨by decide, rfl, by decide, _, hcode, by decide⟩

/-- A unit in the code of a phrase is shown with braces; in a spelling and in the record of a single
character it is shown without them. -/
theorem note_unitInCode :
    let a : Annotator := ⟨firstComponentsOfTwo, true, false, false, .literal, Tone.convert⟩
    (a.note unitInCode.lookup 3 ['中', '国']).text =
        some "〔<口>囗 · \x7bab\x7dg〕".toList ∧
      (a.note unitInCode.lookup 3 ['中']).text = some "〔<口>丨 · <ab>c〕".toList := by
  decide +kernel

end Annotator

end GlyphGloss
