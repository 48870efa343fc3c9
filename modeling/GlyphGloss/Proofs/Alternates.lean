import GlyphGloss.Annotator
import GlyphGloss.Display.Tone
import GlyphGloss.Proofs.Composition
import GlyphGloss.Proofs.Record.Joined

/-!
# Adding alternates to a dictionary

Rows that are added behind the others give a character further records. As long as the values that
were there end with a closing bracket and the added ones start with an opening bracket, the records
that a character had stay in front, so that its first record, and with it every composition that
could be made, stays the same; and what a character showed is the start of what it shows then.

## Main definitions

* `Lexicon.ClosedAt`, `Lexicon.OpenAt`: the conditions on the values of a key.

## Main results

* `Lexicon.readAll_lookup_append`: the records of a key after more rows.
* `Composition.compose_ofRows_append`: compositions and displays after more rows.
-/

namespace GlyphGloss

/-! ### Records after more rows -/

namespace Lexicon

/-- Whether the values that rows give for a key end with a closing bracket, blanks aside. -/
def ClosedAt (rows : List (Text × Text)) (key : Text) : Prop :=
  ∀ value ∈ given rows key, Record.Closes value

/-- Whether the values that rows give for a key start with an opening bracket, blanks aside. -/
def OpenAt (rows : List (Text × Text)) (key : Text) : Prop :=
  ∀ value ∈ given rows key, Record.Opens value

instance (rows : List (Text × Text)) (key : Text) : Decidable (ClosedAt rows key) :=
  inferInstanceAs (Decidable (∀ value ∈ given rows key, Record.Closes value))

instance (rows : List (Text × Text)) (key : Text) : Decidable (OpenAt rows key) :=
  inferInstanceAs (Decidable (∀ value ∈ given rows key, Record.Opens value))

variable {rows more : List (Text × Text)} {key : Text}

/-- The records of joined values, in two portions. -/
theorem readAll_join_append {values added : List Text}
    (hvalues : ∀ value ∈ values, Record.Closes value)
    (hadded : ∀ value ∈ added, Record.Opens value) :
    Record.readAll (Text.join [' '] (values ++ added)) =
      Record.readAll (Text.join [' '] values) ++ Record.readAll (Text.join [' '] added) := by
  by_cases hne : values = []
  · rw [hne]
    rfl
  · by_cases hneAdded : added = []
    · rw [hneAdded, List.append_nil]
      exact (List.append_nil _).symm
    · rw [Text.join_append hne hneAdded]
      exact Record.readAll_append (.join hvalues) (.join hadded)

/-- More rows leave the records of a key in front. -/
theorem readAll_lookup_append (hrows : ClosedAt rows key) (hmore : OpenAt more key) :
    Record.readAll ((ofRows rows).lookup key) <+:
      Record.readAll ((ofRows (rows ++ more)).lookup key) := by
  obtain ⟨added, hadded, hgiven⟩ := exists_valuesOf_ofRows_append rows more key
  rw [lookup, lookup, hadded, readAll_join_append]
  · exact List.prefix_append _ _
  · intro value hvalue
    rw [valuesOf_ofRows, List.mem_eraseDups] at hvalue
    exact hrows value hvalue
  · exact fun value hvalue => hmore value (hgiven value hvalue)

end Lexicon

/-- The first record stays the first one with more records behind it. -/
theorem Record.componentsOf?_of_front {raw raw' : Text} (hne : readAll raw ≠ [])
    (h : readAll raw <+: readAll raw') (extract : Extract) :
    componentsOf? raw' extract = componentsOf? raw extract := by
  obtain ⟨more, hmore⟩ := h
  rw [componentsOf?, componentsOf?, readFirst?, readFirst?, ← hmore,
    List.head?_append_of_ne_nil _ hne]

/-- What records show is the start of what they show with more records behind them. -/
theorem Display.records_mono {found found' : List Record} (h : found <+: found')
    (toTone : Text → Text) (level : Int) (toneMarks : Bool) :
    records toTone level toneMarks found <+: records toTone level toneMarks found' := by
  obtain ⟨more, rfl⟩ := h
  rw [records, records, List.map_append, List.filter_append]
  exact Text.join_prefix_join_append _ _ _

/-! ### Compositions after more rows -/

namespace Composition

variable {rows more : List (Text × Text)} {phrase : Text}

/-- **Alternates change no composition.** Let rows be added behind the rows of a dictionary, where
for every character of a phrase the old values end with a closing bracket and the added ones start
with an opening bracket, blanks aside. If the phrase had a spelling then it has the same one, and
the same codes of either kind or again none, so that it is annotated as before; and what its
characters show, at any level and however syllables are converted, starts with what they showed
before. -/
theorem compose_ofRows_append (table : RuleTable)
    (hrows : ∀ c ∈ phrase, Lexicon.ClosedAt rows [c])
    (hmore : ∀ c ∈ phrase, Lexicon.OpenAt more [c]) :
    let before := (Lexicon.ofRows rows).lookup
    let after := (Lexicon.ofRows (rows ++ more)).lookup
    (∀ spelled, compose table before .spelling phrase = .ok spelled →
      compose table after .spelling phrase = .ok spelled ∧
      (∀ extract, compose table after extract phrase = compose table before extract phrase) ∧
      ∀ (a : Annotator) (level : Int), a.rules = table →
        a.phraseNote after level phrase = a.phraseNote before level phrase) ∧
    ∀ c ∈ phrase, ∀ (toTone : Text → Text) (level : Int) (toneMarks : Bool),
      Display.records toTone level toneMarks (Record.readAll (before [c])) <+:
        Display.records toTone level toneMarks (Record.readAll (after [c])) := by
  intro before after
  have hfront (c : Char) (hc : c ∈ phrase) :
      Record.readAll (before [c]) <+: Record.readAll (after [c]) :=
    Lexicon.readAll_lookup_append (hrows c hc) (hmore c hc)
  refine ⟨fun spelled hspelled => ?_, fun c hc toTone level toneMarks =>
    Display.records_mono (hfront c hc) toTone level toneMarks⟩
  obtain ⟨formula, hformula, hcomposable, -⟩ := (compose_eq_ok_iff _ _ _ _ _).1 hspelled
  have hsame (extract : Extract) :
      compose table after extract phrase = compose table before extract phrase := by
    refine compose_congr table fun formula' hformula' i hi => ?_
    obtain rfl := Option.some.inj (hformula.symm.trans hformula')
    obtain ⟨c, hc⟩ := Option.isSome_iff_exists.1 (hcomposable.inside i hi)
    have hvalue (lookup : Text → Text) : value? lookup phrase i = some (lookup [c]) := by
      rw [value?, hc]
      rfl
    have hne : Record.readAll (before [c]) ≠ [] := hcomposable.recorded i hi _ (hvalue before)
    have hfirst := Record.componentsOf?_of_front hne (hfront c (Position.mem_of_item? hc))
    rw [SameComponents, hvalue, hvalue, Option.map_some, Option.map_some, hfirst]
  refine ⟨(hsame .spelling).trans hspelled, hsame, ?_⟩
  rintro a level rfl
  simp only [Annotator.phraseNote, hsame]

/-- A record without fields in front, a value given again, and a new record for a character that the
formula does not name. -/
theorem compose_ofRows_append_firstAndLast :
    let rows := [(['中'], "[]".toList), (['中'], "[口丨,kd_k]".toList),
      (['国'], "[囗王丶,gw]".toList)]
    let more := [(['国'], "[囗王丶,gw]".toList), (['中'], "[中,zz]".toList),
      (['人'], "[人,r]".toList)]
    let before := (Lexicon.ofRows rows).lookup
    let after := (Lexicon.ofRows (rows ++ more)).lookup
    (compose firstAndLast after .literal ['中', '人', '国']).toOption = some ['k', 'w', '～'] ∧
      Record.readAll (after ['人']) ≠ Record.readAll (before ['人']) ∧
      Display.records Tone.convert 2 false (Record.readAll (before ['中'])) <+:
        Display.records Tone.convert 2 false (Record.readAll (after ['中'])) := by
  intro rows more before after
  have hrows : ∀ c ∈ ['中', '人', '国'], Lexicon.ClosedAt rows [c] := by
    simp only [List.forall_mem_cons]
    exact ⟨by decide, by decide, by decide, nofun⟩
  have hmore : ∀ c ∈ ['中', '人', '国'], Lexicon.OpenAt more [c] := by
    simp only [List.forall_mem_cons]
    exact ⟨by decide, by decide, by decide, nofun⟩
  obtain ⟨hsame, hshown⟩ := compose_ofRows_append firstAndLast hrows hmore
  have hspelled : (compose firstAndLast before .spelling ['中', '人', '国']) =
      .ok ['口', '丶', '～'] := by rfl
  refine ⟨?_, by decide, hshown '中' (by decide) Tone.convert 2 false⟩
  rw [(hsame _ hspelled).2.1]
  decide

end Composition

end GlyphGloss
