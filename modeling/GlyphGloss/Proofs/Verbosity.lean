import GlyphGloss.Proofs.Display

/-!
# Annotations at different levels

A higher level shows more of a character and keeps what a lower one shows: the fields that are added
stand behind those that were there, in front of the closing bracket. Fields that show nothing leave
no trace, at whatever level. Neither does the level matter for which texts have an annotation, and
the spelling of a phrase is shown alike with its codes and without them.

## Main definitions

* `Display.form`: the shown form of the field at a place.
* `Annotator.phraseCodes`: the codes that the annotation of a phrase can show.

## Main results

* `Display.words_field`: the words of the shown form of a field.
* `Display.wrap_append`: more parts come in front of the closing bracket.
* `Display.record_eq_nil_iff`, `Display.record_mono`: the record of a character at one level and at
  two levels.
* `Annotator.note_text_eq_none_iff`: which texts have no annotation.
* `Annotator.note_mono`: what a higher level changes.
-/

namespace GlyphGloss

/-! ### Forms of fields -/

namespace Display

variable {toTone : Text → Text} {toneMarks : Bool} {lo hi level : Int} {c : Char} {t : Text}
  {parts : List Text} {r : Record}

/-- The shown form of the field at a place. -/
def form (toTone : Text → Text) (toneMarks : Bool) (i : Nat) (t : Text) : Text :=
  if i = 2 then pronunciation toTone toneMarks t else field t

theorem isBlank_symbol_iff : isBlank (symbol c) ↔ isBlank c ∨ c = '_' := by
  unfold symbol
  split_ifs with hopening hclosing hunderscore
  · subst hopening
    decide
  · subst hclosing
    decide
  · subst hunderscore
    decide
  · simp [hunderscore]

/-- The words of the shown form of a field are those that it is made of. -/
theorem words_field (t : Text) : Text.words (field t) = fieldWords t :=
  Text.filter_splitWhen_join (by decide) (Text.nil_notMem_words _) fun word hword _ hc =>
    (Text.exists_mem_words.1 ⟨word, hword, hc⟩).2

/-! ### Parts between brackets -/

theorem wrap_of_ne_nil (h : parts.filter (!·.isEmpty) ≠ []) :
    wrap parts = opening ++ Text.join separator (parts.filter (!·.isEmpty)) ++ closing := by
  unfold wrap
  split
  · next hnil => exact absurd hnil h
  · rfl

/-- The brackets go only if no part shows anything. -/
theorem wrap_eq_nil_iff : wrap parts = [] ↔ ∀ part ∈ parts, part = [] := by
  have hkept : parts.filter (!·.isEmpty) = [] ↔ ∀ part ∈ parts, part = [] := by
    simp [List.filter_eq_nil_iff]
  rw [← hkept]
  constructor
  · intro h
    by_contra hne
    rw [wrap_of_ne_nil hne] at h
    simp [opening] at h
  · intro h
    rw [wrap, h]

/-- More parts come in front of the closing bracket. -/
theorem wrap_append (h : wrap parts ≠ []) (more : List Text) :
    ∃ body, wrap parts = body ++ closing ∧ wrap (parts ++ more) =
      body ++ (more.filter (!·.isEmpty)).flatMap (separator ++ ·) ++ closing := by
  have hne : parts.filter (!·.isEmpty) ≠ [] := fun hnil => h (by rw [wrap, hnil])
  have hmore : (parts ++ more).filter (!·.isEmpty) ≠ [] := by
    rw [List.filter_append]
    exact List.append_ne_nil_of_left_ne_nil hne _
  refine ⟨_, wrap_of_ne_nil hne, ?_⟩
  rw [wrap_of_ne_nil hmore, List.filter_append]
  obtain ⟨part, kept, hkept⟩ := List.exists_cons_of_ne_nil hne
  rw [hkept, List.cons_append, Text.join_cons, Text.join_cons, List.flatMap_append]
  simp only [List.append_assoc]

/-! ### Records -/

theorem getElem?_shownFields (h : 0 ≤ level) (fields : List Text) (i : Nat) :
    (shownFields level fields)[i]? = if i < level ∨ 3 ≤ level then fields[i]? else none := by
  unfold shownFields
  split_ifs with hall hshown hshown
  · rfl
  · exact absurd (.inr hall) hshown
  · rw [List.getElem?_take_of_lt (by omega)]
  · rw [List.getElem?_take, if_neg (by omega)]

/-- A higher level shows more fields behind those of a lower one. -/
theorem shownFields_prefix (hlo : 0 ≤ lo) (h : lo ≤ hi) (fields : List Text) :
    shownFields lo fields <+: shownFields hi fields := by
  have hhi : 0 ≤ hi := Int.le_trans hlo h
  unfold shownFields
  by_cases hall : 3 ≤ hi
  · rw [if_pos hall]
    split_ifs
    · exact List.prefix_rfl
    · exact List.take_prefix _ _
  · rw [if_neg hall, if_neg (by omega : ¬3 ≤ lo), if_pos hlo, if_pos hhi]
    exact List.take_prefix_take_left (by omega)

theorem fieldForms_eq (toTone : Text → Text) (toneMarks : Bool) (fields : List Text) :
    fieldForms toTone toneMarks fields = fields.mapIdx (form toTone toneMarks) := rfl

/-- The record of a character shows nothing at a level if no field up to that level does. -/
theorem record_eq_nil_iff (h : 0 ≤ level) :
    record toTone level toneMarks r = [] ↔
      ∀ (i : Nat) t, r.fields[i]? = some t → i < level ∨ 3 ≤ level →
        form toTone toneMarks i t = [] := by
  rw [record, wrap_eq_nil_iff]
  constructor
  · intro hparts i t ht hshown
    refine hparts _ (List.mem_iff_getElem?.2 ⟨i, ?_⟩)
    rw [fieldForms_eq, List.getElem?_mapIdx, getElem?_shownFields h, if_pos hshown, ht]
    rfl
  · intro hforms part hpart
    obtain ⟨i, hi⟩ := List.mem_iff_getElem?.1 hpart
    rw [fieldForms_eq, List.getElem?_mapIdx, getElem?_shownFields h] at hi
    split_ifs at hi with hshown
    · obtain ⟨t, ht, rfl⟩ := Option.map_eq_some_iff.1 hi
      exact hforms i t ht hshown
    · exact absurd hi nofun

/-- A higher level adds parts to the record of a character, in front of the closing bracket. -/
theorem record_mono (hlo : 0 ≤ lo) (h : lo ≤ hi) (hne : record toTone lo toneMarks r ≠ []) :
    ∃ (body : Text) (more : List Text), record toTone lo toneMarks r = body ++ closing ∧
      [] ∉ more ∧ record toTone hi toneMarks r =
        body ++ more.flatMap (separator ++ ·) ++ closing := by
  obtain ⟨fields, hfields⟩ := shownFields_prefix hlo h r.fields
  obtain ⟨added, hadded⟩ : fieldForms toTone toneMarks (shownFields lo r.fields) <+:
      fieldForms toTone toneMarks (shownFields hi r.fields) := by
    rw [← hfields, fieldForms, fieldForms, List.mapIdx_append]
    exact List.prefix_append _ _
  obtain ⟨body, hbody, hmore⟩ := wrap_append hne added
  refine ⟨body, added.filter (!·.isEmpty), hbody, by simp, ?_⟩
  rw [record, ← hadded, hmore]

end Display

/-! ### Annotations -/

namespace Annotator

open Display

variable {a : Annotator} {lookup : Text → Text} {level : Int} {t composed : Text}

/-- The codes that the annotation of a phrase can show: none if its code cannot be composed. -/
def phraseCodes (a : Annotator) (lookup : Text → Text) (t : Text) : List Text :=
  codes ((Composition.compose a.rules lookup a.codePart t).toOption.getD [])

theorem characterNote_text_eq_none_iff :
    (a.characterNote lookup level t).text = none ↔ Record.readAll (lookup t) = [] := by
  unfold characterNote
  split
  · next hnone => simp [hnone]
  · next hsome => simpa using hsome

theorem phraseNote_text_eq_none_iff :
    (a.phraseNote lookup level t).text = none ↔
      ∃ gap, Composition.compose a.rules lookup .spelling t = .error gap := by
  cases hspelling : Composition.compose a.rules lookup .spelling t with
  | error gap => simp [phraseNote, hspelling]
  | ok composed => simp [phraseNote_text hspelling]

theorem note_of_length_ne_one (hlength : t.length ≠ 1) (hphrases : a.phrases = true)
    (ht : t ≠ []) : a.note lookup level t = a.phraseNote lookup level t := by
  simp [note, hlength, hphrases, ht]

/-- Which texts have no annotation: a character without a record, and if phrases are annotated, the
empty text and a phrase whose spelling cannot be composed. -/
theorem note_text_eq_none_iff :
    (a.note lookup level t).text = none ↔
      if t.length = 1 then Record.readAll (lookup t) = []
      else a.phrases ∧
        (t = [] ∨ ∃ gap, Composition.compose a.rules lookup .spelling t = .error gap) := by
  unfold note
  split_ifs with hlength hphrases hempty
  · exact characterNote_text_eq_none_iff
  · have hoff : a.phrases = false := by simpa using hphrases
    simp [hoff]
  · have hon : a.phrases = true := by simpa using hphrases
    simp [hon, List.isEmpty_iff.1 hempty]
  · have hon : a.phrases = true := by simpa using hphrases
    have ht : t ≠ [] := fun hnil => hempty (List.isEmpty_iff.2 hnil)
    simp [hon, ht, phraseNote_text_eq_none_iff]

/-- **A higher level only adds.** Let the record of a character show something at a level from one
on. At a higher level it shows the same up to the closing bracket, then any further parts, each with
the separator in front, and the closing bracket. It shows nothing exactly if no field up to that
level does, where the third level stands for all fields. This is so however syllables are converted.
Whether a text has an annotation does not depend on the level. The spelling of a phrase is shown
alike at each level: alone at the first one, and with the codes at the others, or between angle
brackets if there are none. -/
theorem note_mono (a : Annotator) (lookup : Text → Text) (t : Text) :
    (∀ (r : Record) (toTone : Text → Text) (toneMarks : Bool) (lo hi : Int), 1 ≤ lo → lo ≤ hi →
      (record toTone lo toneMarks r = [] ∨ ∃ (body : Text) (more : List Text),
        record toTone lo toneMarks r = body ++ closing ∧ [] ∉ more ∧
          record toTone hi toneMarks r = body ++ more.flatMap (separator ++ ·) ++ closing) ∧
      (record toTone lo toneMarks r = [] ↔ ∀ (i : Nat) raw, r.fields[i]? = some raw →
        i < lo ∨ 3 ≤ lo → form toTone toneMarks i raw = [])) ∧
    (∀ lo hi, (a.note lookup lo t).text = none ↔ (a.note lookup hi t).text = none) ∧
    ∀ composed, 1 < t.length → a.phrases = true →
      Composition.compose a.rules lookup .spelling t = .ok composed →
        (a.note lookup 1 t).text = some (opening ++ field composed ++ closing) ∧
        ∀ level, level ≠ 1 → (a.note lookup level t).text = some
          (if a.phraseCodes lookup t = [] then altOpening ++ field composed ++ altClosing
          else opening ++ field composed ++ separator ++ Text.join [' '] (a.phraseCodes lookup t) ++
            closing) := by
  refine ⟨?_, ?_, ?_⟩
  · intro r toTone toneMarks lo hi hlo h
    have hlo : 0 ≤ lo := Int.le_trans (by decide) hlo
    exact ⟨or_iff_not_imp_left.2 (record_mono hlo h), record_eq_nil_iff hlo⟩
  · intro lo hi
    rw [note_text_eq_none_iff, note_text_eq_none_iff]
  · intro composed hlength hphrases hspelling
    have ht : t ≠ [] := fun hnil => by simp [hnil] at hlength
    simp only [note_of_length_ne_one hlength.ne' hphrases ht, phraseNote_text hspelling]
    refine ⟨by rw [phrase_one], fun level hlevel => ?_⟩
    rw [phrase_of_ne_one hlevel, phraseCodes]

/-- A record without codes gets its pronunciations at the third level, and the phrase its code at
the second one. -/
theorem note_mono_unitInCode :
    let a : Annotator := ⟨firstComponentsOfTwo, true, false, false, .literal, Tone.convert⟩
    let r : Record := ⟨["\x7b木\x7da".toList, ['_'], "pin1_yin".toList]⟩
    record Tone.convert 1 true r ≠ [] ∧
      (∃ (body : Text) (more : List Text),
        record Tone.convert 1 true r = body ++ closing ∧ [] ∉ more ∧
          record Tone.convert 3 true r = body ++ more.flatMap (separator ++ ·) ++ closing) ∧
      (a.note unitInCode.lookup 1 ['中', '国']).text = some "〔<口>囗〕".toList ∧
      (a.note unitInCode.lookup 2 ['中', '国']).text = some "〔<口>囗 · \x7bab\x7dg〕".toList := by
  intro a r
  obtain ⟨hrecord, -, hphrase⟩ := note_mono a unitInCode.lookup ['中', '国']
  have hshown : record Tone.convert 1 true r ≠ [] := by decide +kernel
  have hspelling : Composition.compose a.rules unitInCode.lookup .spelling ['中', '国'] =
      .ok "\x7b口\x7d囗".toList := by decide +kernel
  have hcodes : a.phraseCodes unitInCode.lookup ['中', '国'] = ["\x7bab\x7dg".toList] := by
    decide +kernel
  obtain ⟨hone, hother⟩ := hphrase _ (by decide) rfl hspelling
  have hmono := (hrecord r Tone.convert true 1 3 (by decide) (by decide)).1.resolve_left hshown
  refine ⟨hshown, hmono, hone, ?_⟩
  have htwo := hother 2 (by decide)
  rw [hcodes, if_neg (List.cons_ne_nil _ _)] at htwo
  exact htwo

end Annotator

end GlyphGloss
