import GlyphGloss.Composition
import GlyphGloss.Lexicon
import Mathlib.Tactic.Common

/-!
# What a composition is made of

A composition reads the record of each character once and remembers its components by the place of
the character; it stops at the first instruction that names no character or a character without a
record. Here it is compared with a description that has neither memory nor order: a phrase has a
composition exactly when every instruction is available and, for codes, some character that is named
has a component, and the composition is what the instructions select, one after the other.

## Main definitions

* `Position.item?`: the item at a signed position, counted from either end.
* `Composition.value?`, `Record.firstComponents`: the value that an instruction refers to, and the
  components of its first record.
* `Composition.Composable`: when a phrase has a composition by a formula.
* `Composition.selected`, `Composition.reference`: what an instruction selects, and the composition
  read off the formula.

## Main results

* `Composition.Progress.After.step`: an available instruction is carried out and remembered.
* `Composition.compose_congr_part`, `Composition.compose_congr`: a composition depends on the
  components of named characters only.
* `Composition.compose_eq_ok_iff`: when a phrase has a composition, and which.
* `Composition.compose_eq_reference`: a composition is the one read off its formula, and depends on
  the characters that its formula names only.
-/

namespace GlyphGloss

/-! ### Items at signed positions -/

/-- The item at a signed position: the `p`-th if `p` is positive, the `-p`-th from the end if `p` is
negative, and none at zero. -/
def Position.item? {α : Type} (xs : List α) (p : Int) : Option α :=
  if 0 < p then xs[(p - 1).toNat]? else if p < 0 then xs.reverse[(-p - 1).toNat]? else none

theorem Position.map_snd_locate? {α : Type} (xs : List α) (p : Int) :
    (Position.locate? xs p).map Prod.snd = Position.item? xs p := by
  have hmap (i : Nat) : (xs[i]?.map (i, ·)).map Prod.snd = xs[i]? := by
    cases xs[i]? <;> rfl
  unfold locate? resolve? item?
  by_cases hpos : 0 < p
  · simp only [hpos, ↓reduceIte]
    split_ifs with hin
    · exact hmap _
    · rw [List.getElem?_eq_none (by omega)]
      rfl
  · by_cases hneg : p < 0
    · simp only [hpos, hneg, ↓reduceIte]
      split_ifs with hin
      · rw [List.getElem?_reverse (by omega)]
        have hplace : xs.length - 1 - (-p - 1).toNat = ((xs.length : Int) + p).toNat := by omega
        rw [hplace]
        exact hmap _
      · rw [List.getElem?_eq_none (by simp only [List.length_reverse]; omega)]
        rfl
    · have hzero : ¬(0 ≤ (xs.length : Int) + p ∧ (xs.length : Int) + p < xs.length) := by omega
      simp only [hpos, hneg, hzero, ↓reduceIte]
      rfl

theorem Position.mem_of_item? {α : Type} {xs : List α} {p : Int} {x : α}
    (h : Position.item? xs p = some x) : x ∈ xs := by
  unfold item? at h
  split_ifs at h
  · exact List.mem_of_getElem? h
  · exact List.mem_reverse.1 (List.mem_of_getElem? h)

/-- No two items stand at one place. -/
theorem Position.item_eq_of_locate? {α : Type} {xs : List α} {p q : Int} {i : Nat} {x y : α}
    (hp : Position.locate? xs p = some (i, x)) (hq : Position.locate? xs q = some (i, y)) :
    x = y := by
  simp only [locate?, Option.bind_eq_some_iff, Option.map_eq_some_iff, Prod.mk.injEq] at hp hq
  obtain ⟨_, _, _, hx, rfl, rfl⟩ := hp
  obtain ⟨_, _, _, hy, rfl, rfl⟩ := hq
  exact Option.some.inj (hx.symm.trans hy)

/-- The components of one part of the first record of a value that has fields, none without such a
record. -/
def Record.firstComponents (raw : Text) (extract : Extract) : List Text :=
  match Record.readAll raw with
  | [] => []
  | r :: _ => r.components extract

theorem Record.exists_of_mem_firstComponents {raw component : Text} {extract : Extract}
    (h : component ∈ firstComponents raw extract) :
    ∃ r, readFirst? raw = some r ∧ component ∈ r.components extract := by
  unfold firstComponents at h
  unfold readFirst?
  split at h
  · exact absurd h List.not_mem_nil
  · next r rs hall => exact ⟨r, by rw [hall, List.head?_cons], h⟩

/-- A value has components when one of its records has fields, and they are those of its first. -/
theorem Record.componentsOf?_eq (raw : Text) (extract : Extract) :
    Record.componentsOf? raw extract =
      if Record.readAll raw = [] then none else some (Record.firstComponents raw extract) := by
  unfold componentsOf? readFirst? firstComponents
  cases Record.readAll raw <;> rfl

namespace Composition

/-! ### The composition read off a formula -/

/-- The value that is looked up for the character that an instruction names. -/
def value? (lookup : Text → Text) (phrase : Text) (i : Instruction) : Option Text :=
  (Position.item? phrase i.character).map fun c => lookup [c]

/-- What an instruction selects: a component of the character that it names, or the placeholder. -/
def selected (lookup : Text → Text) (extract : Extract) (phrase : Text) (i : Instruction) : Text :=
  ((value? lookup phrase i).bind fun raw =>
    Position.item? (Record.firstComponents raw extract) i.component).getD placeholder

/-- An instruction selects the placeholder, or a component of the value that it refers to. -/
theorem selected_eq_or_mem (lookup : Text → Text) (extract : Extract) (phrase : Text)
    (i : Instruction) :
    selected lookup extract phrase i = placeholder ∨ ∃ raw ∈ value? lookup phrase i,
      selected lookup extract phrase i ∈ Record.firstComponents raw extract := by
  unfold selected
  cases value? lookup phrase i with
  | none => exact .inl rfl
  | some raw =>
    rw [Option.bind_some]
    cases hitem : Position.item? (Record.firstComponents raw extract) i.component with
    | none => exact .inl rfl
    | some component => exact .inr ⟨raw, rfl, Position.mem_of_item? hitem⟩

/-- When a phrase has a composition by a formula. -/
structure Composable (lookup : Text → Text) (extract : Extract) (phrase : Text)
    (formula : Formula) : Prop where
  /-- Every instruction names a character of the phrase. -/
  inside : ∀ i ∈ formula, (Position.item? phrase i.character).isSome
  /-- Every character that is named has a record with fields. -/
  recorded : ∀ i ∈ formula, ∀ raw ∈ value? lookup phrase i, Record.readAll raw ≠ []
  /-- For codes, some character that is named has a component. -/
  coded : extract ≠ .spelling → ∃ i ∈ formula, ∃ raw ∈ value? lookup phrase i,
    Record.firstComponents raw extract ≠ []

instance (lookup : Text → Text) (extract : Extract) (phrase : Text) (formula : Formula) :
    Decidable (Composable lookup extract phrase formula) :=
  decidable_of_iff
    ((∀ i ∈ formula, (Position.item? phrase i.character).isSome) ∧
      (∀ i ∈ formula, ∀ raw ∈ value? lookup phrase i, Record.readAll raw ≠ []) ∧
      (extract ≠ .spelling → ∃ i ∈ formula, ∃ raw ∈ value? lookup phrase i,
        Record.firstComponents raw extract ≠ []))
    ⟨fun ⟨hin, hrec, hcode⟩ => ⟨hin, hrec, hcode⟩, fun ⟨hin, hrec, hcode⟩ => ⟨hin, hrec, hcode⟩⟩

/-- The composition of a phrase read off its formula, instruction by instruction. -/
def reference (table : RuleTable) (lookup : Text → Text) (extract : Extract) (phrase : Text) :
    Option Text :=
  (table.forLength phrase.length).bind fun formula =>
    if Composable lookup extract phrase formula then
      some (formula.flatMap (selected lookup extract phrase))
    else none

/-! ### One instruction -/

section Steps

variable {lookup : Text → Text} {extract : Extract} {phrase : Text} {done rest : Formula}
  {p : Progress} {i : Instruction}

/-- An instruction is available when it names a character with a record that has fields. -/
def Available (lookup : Text → Text) (phrase : Text) (i : Instruction) : Prop :=
  ∃ raw ∈ value? lookup phrase i, Record.readAll raw ≠ []

/-- What a composition has found after some instructions: the components of the characters that they
name, by their places, and what they select. -/
structure Progress.After (lookup : Text → Text) (extract : Extract) (phrase : Text)
    (done : Formula) (p : Progress) : Prop where
  /-- The components of the characters that were named are known, and no others. -/
  known_iff : ∀ place components, p.known.get? place = some components ↔
    ∃ i ∈ done, ∃ c, Position.locate? phrase i.character = some (place, c) ∧
      Record.componentsOf? (lookup [c]) extract = some components
  /-- What the instructions select was chosen. -/
  chosen_eq : p.chosen = done.map (selected lookup extract phrase)

theorem Progress.After.start (lookup : Text → Text) (extract : Extract) (phrase : Text) :
    Progress.After lookup extract phrase [] {} where
  known_iff place components := by simp
  chosen_eq := rfl

/-- What is known of a place are the components of the character there. -/
theorem Progress.After.componentsOf?_of_known (h : p.After lookup extract phrase done)
    {q : Int} {place : Nat} {c : Char} {components : List Text}
    (hq : Position.locate? phrase q = some (place, c))
    (hknown : p.known.get? place = some components) :
    Record.componentsOf? (lookup [c]) extract = some components := by
  obtain ⟨i, _, c', hi, hc'⟩ := (h.known_iff place components).1 hknown
  rwa [Position.item_eq_of_locate? hq hi]

/-- Looking for the components of a character gives them, and they are known from then on. -/
theorem Progress.After.componentsAt (h : p.After lookup extract phrase done) {q : Int}
    {place : Nat} {c : Char} {components : List Text}
    (hq : Position.locate? phrase q = some (place, c))
    (hc : Record.componentsOf? (lookup [c]) extract = some components) :
    ∃ known, componentsAt lookup extract p.known place c = .ok (known, components) ∧
      ∀ place', known.get? place' =
        if place = place' then some components else p.known.get? place' := by
  unfold Composition.componentsAt
  cases hknown : p.known.get? place with
  | some components' =>
    have hsame : components' = components :=
      Option.some.inj ((h.componentsOf?_of_known hq hknown).symm.trans hc)
    refine ⟨p.known, by rw [hsame], fun place' => ?_⟩
    split_ifs with hplace
    · rw [← hplace, hknown, hsame]
    · rfl
  | none =>
    simp only [hc]
    exact ⟨_, rfl, fun place' => OrderedMap.get?_insert _ _ _ _⟩

theorem value?_eq_of_locate? {place : Nat} {c : Char}
    (hi : Position.locate? phrase i.character = some (place, c)) :
    value? lookup phrase i = some (lookup [c]) := by
  rw [value?, ← Position.map_snd_locate?, hi]
  rfl

/-- An instruction that is available locates a character whose record has components. -/
theorem Available.locate (hi : Available lookup phrase i) (extract : Extract) :
    ∃ place c, Position.locate? phrase i.character = some (place, c) ∧
      Record.componentsOf? (lookup [c]) extract =
        some (Record.firstComponents (lookup [c]) extract) := by
  obtain ⟨raw, hraw, hfields⟩ := hi
  cases hloc : Position.locate? phrase i.character with
  | none =>
    rw [value?, ← Position.map_snd_locate?, hloc] at hraw
    exact absurd hraw (by simp)
  | some found =>
    obtain ⟨place, c⟩ := found
    rw [value?_eq_of_locate? hloc, Option.mem_some_iff] at hraw
    exact ⟨place, c, rfl, by rw [Record.componentsOf?_eq, if_neg (hraw ▸ hfields)]⟩

/-- An available instruction is carried out, and what it found is remembered. -/
theorem Progress.After.step (h : p.After lookup extract phrase done)
    (hi : Available lookup phrase i) :
    ∃ p', step lookup extract phrase p i = .ok p' ∧
      p'.After lookup extract phrase (done ++ [i]) := by
  obtain ⟨place, c, hloc, hc⟩ := hi.locate extract
  obtain ⟨known, hat, hget⟩ := h.componentsAt hloc hc
  refine ⟨_, by simp only [Composition.step, hloc, hat]; rfl, ?_, ?_⟩
  · intro place' components
    rw [hget place']
    -- At the place of this instruction an earlier one may have named the same character, by a
    -- position from the other end; elsewhere only earlier ones count.
    split_ifs with hplace
    · subst hplace
      constructor
      · intro hsome
        exact ⟨i, by simp, c, hloc, hc.trans hsome⟩
      · rintro ⟨j, -, c', hj, hc'⟩
        rw [← hc, Position.item_eq_of_locate? hloc hj, hc']
    · rw [h.known_iff]
      constructor
      · rintro ⟨j, hj, found⟩
        exact ⟨j, List.mem_append_left _ hj, found⟩
      · rintro ⟨j, hj, c', hloc', hc'⟩
        rcases List.mem_append.1 hj with hj | hj
        · exact ⟨j, hj, c', hloc', hc'⟩
        · rw [List.mem_singleton.1 hj, hloc] at hloc'
          exact absurd (congrArg Prod.fst (Option.some.inj hloc')) hplace
  · have hselected : choose (Record.firstComponents (lookup [c]) extract) i.component =
        selected lookup extract phrase i := by
      rw [choose, Position.map_snd_locate?, selected, value?_eq_of_locate? hloc]
      rfl
    rw [List.map_append, ← h.chosen_eq, List.map_singleton, hselected]

/-- An instruction that is not available ends the composition. -/
theorem Progress.After.step_error (h : p.After lookup extract phrase done)
    (hi : ¬Available lookup phrase i) :
    ∃ gap, Composition.step lookup extract phrase p i = .error gap := by
  cases hloc : Position.locate? phrase i.character with
  | none => exact ⟨_, by rw [Composition.step, hloc]⟩
  | some found =>
    obtain ⟨place, c⟩ := found
    have hfields : Record.readAll (lookup [c]) = [] := by
      by_contra hne
      exact hi ⟨_, value?_eq_of_locate? hloc, hne⟩
    have hc : Record.componentsOf? (lookup [c]) extract = none := by
      rw [Record.componentsOf?_eq, if_pos hfields]
    have hknown : p.known.get? place = none := by
      cases hknown : p.known.get? place with
      | none => rfl
      | some components =>
        rw [h.componentsOf?_of_known hloc hknown] at hc
        exact absurd hc (by simp)
    refine ⟨.noRecord c, ?_⟩
    simp only [Composition.step, hloc, Composition.componentsAt, hknown, hc]

/-! ### All instructions -/

/-- Available instructions are carried out one after the other. -/
theorem Progress.After.run (h : p.After lookup extract phrase done)
    (hrest : ∀ i ∈ rest, Available lookup phrase i) :
    ∃ p', rest.foldlM (Composition.step lookup extract phrase) p = .ok p' ∧
      p'.After lookup extract phrase (done ++ rest) := by
  induction rest generalizing done p with
  | nil => exact ⟨p, rfl, by rwa [List.append_nil]⟩
  | cons i rest ih =>
    obtain ⟨next, hnext, hafter⟩ := h.step (hrest i List.mem_cons_self)
    obtain ⟨p', hrun, hp'⟩ := ih hafter fun j hj => hrest j (List.mem_cons_of_mem _ hj)
    refine ⟨p', ?_, by simpa only [List.append_assoc, List.singleton_append] using hp'⟩
    rw [List.foldlM_cons, hnext]
    exact hrun

/-- One instruction that is not available is enough to end the composition. -/
theorem Progress.After.run_error (h : p.After lookup extract phrase done) (hi : i ∈ rest)
    (hn : ¬Available lookup phrase i) :
    ∃ gap, rest.foldlM (Composition.step lookup extract phrase) p = .error gap := by
  induction rest generalizing done p with
  | nil => exact absurd hi List.not_mem_nil
  | cons j rest ih =>
    rw [List.foldlM_cons]
    by_cases hj : Available lookup phrase j
    · obtain ⟨next, hnext, hafter⟩ := h.step hj
      have hmem : i ∈ rest := by
        rcases List.mem_cons.1 hi with rfl | hmem
        · exact absurd hj hn
        · exact hmem
      rw [hnext]
      exact ih hafter hmem
    · obtain ⟨gap, hgap⟩ := h.step_error hj
      exact ⟨gap, by rw [hgap]; rfl⟩

/-- After available instructions, nothing that is known has a component exactly when no character
that they name has one. -/
theorem Progress.After.all_isEmpty_iff (h : p.After lookup extract phrase done)
    (hdone : ∀ i ∈ done, Available lookup phrase i) :
    p.known.values.all (·.isEmpty) = true ↔
      ¬∃ i ∈ done, ∃ raw ∈ value? lookup phrase i, Record.firstComponents raw extract ≠ [] := by
  rw [List.all_eq_true]
  constructor
  · rintro hall ⟨i, hi, raw, hraw, hne⟩
    obtain ⟨place, c, hloc, hc⟩ := (hdone i hi).locate extract
    rw [value?_eq_of_locate? hloc, Option.mem_some_iff] at hraw
    have hknown := (h.known_iff place _).2 ⟨i, hi, c, hloc, hc⟩
    have hempty := hall _ ((OrderedMap.mem_values_iff _ _).2 ⟨place, hknown⟩)
    exact hne (hraw ▸ List.isEmpty_iff.1 hempty)
  · intro hnone components hmem
    obtain ⟨place, hknown⟩ := (OrderedMap.mem_values_iff _ _).1 hmem
    obtain ⟨i, hi, c, hloc, hc⟩ := (h.known_iff place components).1 hknown
    rw [List.isEmpty_iff]
    by_contra hne
    refine hnone ⟨i, hi, _, value?_eq_of_locate? hloc, ?_⟩
    rw [Record.componentsOf?_eq] at hc
    split_ifs at hc
    exact (Option.some.inj hc) ▸ hne

end Steps

/-! ### What a composition depends on -/

section Dependence

variable {lookup lookup' : Text → Text} {extract : Extract} {phrase : Text} {formula : Formula}
  {i : Instruction}

/-- Whether two look-ups give the character that an instruction names the same components. -/
def SameComponents (lookup lookup' : Text → Text) (extract : Extract) (phrase : Text)
    (i : Instruction) : Prop :=
  (value? lookup phrase i).map (Record.componentsOf? · extract) =
    (value? lookup' phrase i).map (Record.componentsOf? · extract)

/-- An instruction depends on the components of the character that it names, whichever part of its
record they come from. -/
theorem step_congr {extract' : Extract}
    (h : (value? lookup phrase i).map (Record.componentsOf? · extract) =
      (value? lookup' phrase i).map (Record.componentsOf? · extract')) (p : Progress) :
    step lookup extract phrase p i = step lookup' extract' phrase p i := by
  unfold step
  cases hloc : Position.locate? phrase i.character with
  | none => rfl
  | some found =>
    obtain ⟨place, c⟩ := found
    rw [value?_eq_of_locate? hloc, value?_eq_of_locate? hloc] at h
    have hcomponents : Record.componentsOf? (lookup [c]) extract =
        Record.componentsOf? (lookup' [c]) extract' := Option.some.inj h
    have hat : componentsAt lookup extract p.known place c =
        componentsAt lookup' extract' p.known place c := by
      rw [componentsAt, componentsAt, hcomponents]
    simp only [hat]

theorem foldlM_step_congr {extract' : Extract}
    (h : ∀ i ∈ formula, (value? lookup phrase i).map (Record.componentsOf? · extract) =
      (value? lookup' phrase i).map (Record.componentsOf? · extract')) (p : Progress) :
    formula.foldlM (step lookup extract phrase) p =
      formula.foldlM (step lookup' extract' phrase) p := by
  induction formula generalizing p with
  | nil => rfl
  | cons i formula ih =>
    rw [List.foldlM_cons, List.foldlM_cons, step_congr (h i List.mem_cons_self)]
    exact bind_congr fun p' => ih (fun j hj => h j (List.mem_cons_of_mem _ hj)) p'

/-- Two parts of records, both of codes or both the spelling, give the same composition if they give
the characters that the formula names the same components. -/
theorem compose_congr_part (table : RuleTable) {extract' : Extract}
    (hcodes : extract ≠ .spelling ↔ extract' ≠ .spelling)
    (h : ∀ formula, table.forLength phrase.length = some formula →
      ∀ i ∈ formula, (value? lookup phrase i).map (Record.componentsOf? · extract) =
        (value? lookup' phrase i).map (Record.componentsOf? · extract')) :
    compose table lookup extract phrase = compose table lookup' extract' phrase := by
  unfold compose
  cases hlength : table.forLength phrase.length with
  | none => rfl
  | some formula => simp only [foldlM_step_congr (h formula hlength), hcodes]

/-- A composition depends on the components of the characters that its formula names. -/
theorem compose_congr (table : RuleTable)
    (h : ∀ formula, table.forLength phrase.length = some formula →
      ∀ i ∈ formula, SameComponents lookup lookup' extract phrase i) :
    compose table lookup extract phrase = compose table lookup' extract phrase :=
  compose_congr_part table Iff.rfl h

/-- A composition that looks up no character depends on no value. -/
theorem compose_of_not_looksUp {table : RuleTable} (h : looksUp table phrase = false)
    (lookup lookup' : Text → Text) (extract : Extract) :
    compose table lookup extract phrase = compose table lookup' extract phrase := by
  unfold looksUp at h
  unfold compose
  cases hlength : table.forLength phrase.length with
  | none => rfl
  | some formula =>
    cases formula with
    | nil => rfl
    | cons i formula =>
      rw [hlength] at h
      have hresolve : Position.resolve? i.character phrase.length = none := by
        simpa using h
      have hstep (lookup : Text → Text) :
          step lookup extract phrase {} i = .error (.outside i.character) := by
        rw [step, Position.locate?, hresolve]
        rfl
      simp only [List.foldlM_cons, hstep]
      rfl

end Dependence

/-! ### The whole composition -/

section Whole

variable {lookup : Text → Text} {extract : Extract} {phrase : Text} {formula : Formula}

/-- A phrase has a composition by a formula when every instruction is available and, for codes, some
character that is named has a component. -/
theorem composable_iff :
    Composable lookup extract phrase formula ↔
      (∀ i ∈ formula, Available lookup phrase i) ∧
        (extract ≠ .spelling → ∃ i ∈ formula, ∃ raw ∈ value? lookup phrase i,
          Record.firstComponents raw extract ≠ []) := by
  constructor
  · intro h
    refine ⟨fun i hi => ?_, h.coded⟩
    obtain ⟨c, hc⟩ := Option.isSome_iff_exists.1 (h.inside i hi)
    have hraw : value? lookup phrase i = some (lookup [c]) := by rw [value?, hc]; rfl
    exact ⟨_, hraw, h.recorded i hi _ hraw⟩
  · rintro ⟨havailable, hcoded⟩
    refine ⟨fun i hi => ?_, fun i hi raw hraw => ?_, hcoded⟩
    · obtain ⟨raw, hraw, -⟩ := havailable i hi
      obtain ⟨c, hc, -⟩ := Option.map_eq_some_iff.1 hraw
      rw [hc]
      rfl
    · obtain ⟨raw', hraw', hfields⟩ := havailable i hi
      rwa [Option.some.inj (hraw.symm.trans hraw')]

/-- When a phrase has a composition, and which: the formula for its length selects it. -/
theorem compose_eq_ok_iff (table : RuleTable) (lookup : Text → Text) (extract : Extract)
    (phrase composed : Text) :
    compose table lookup extract phrase = .ok composed ↔
      ∃ formula, table.forLength phrase.length = some formula ∧
        Composable lookup extract phrase formula ∧
        formula.flatMap (selected lookup extract phrase) = composed := by
  unfold compose
  cases hlength : table.forLength phrase.length with
  | none => simp
  | some formula =>
    simp only [Option.some.injEq, exists_eq_left', composable_iff]
    by_cases havailable : ∀ i ∈ formula, Available lookup phrase i
    · obtain ⟨p, hrun, hp⟩ := (Progress.After.start lookup extract phrase).run havailable
      rw [List.nil_append] at hp
      rw [hrun]
      simp only [bind, Except.bind, hp.all_isEmpty_iff havailable]
      split_ifs with hcodes
      · simp only [false_iff]
        rintro ⟨⟨-, hcoded⟩, -⟩
        exact hcodes.2 (hcoded hcodes.1)
      · have hcoded := fun hne => not_not.1 fun hnone => hcodes ⟨hne, hnone⟩
        simp only [hp.chosen_eq, ← List.flatMap_def]
        exact ⟨fun h => ⟨⟨havailable, hcoded⟩, Except.ok.inj h⟩, fun h => congrArg _ h.2⟩
    · obtain ⟨i, hi, hn⟩ : ∃ i ∈ formula, ¬Available lookup phrase i := by
        simpa only [not_forall, exists_prop] using havailable
      obtain ⟨gap, hgap⟩ := (Progress.After.start lookup extract phrase).run_error hi hn
      rw [hgap]
      simp only [bind, Except.bind, reduceCtorEq, havailable, false_and]

/-- The composition read off a formula is what the formula selects. -/
theorem reference_eq_some_iff (table : RuleTable) (lookup : Text → Text) (extract : Extract)
    (phrase composed : Text) :
    reference table lookup extract phrase = some composed ↔
      ∃ formula, table.forLength phrase.length = some formula ∧
        Composable lookup extract phrase formula ∧
        formula.flatMap (selected lookup extract phrase) = composed := by
  simp only [reference, Option.bind_eq_some_iff, Option.ite_none_right_eq_some, Option.some.injEq]

/-- The composition read off a formula depends on the values for its instructions only. -/
theorem reference_congr (table : RuleTable) {lookup lookup' : Text → Text} (extract : Extract)
    {phrase phrase' : Text} (hlength : phrase'.length = phrase.length)
    (hvalue : ∀ formula, table.forLength phrase.length = some formula →
      ∀ i ∈ formula, value? lookup' phrase' i = value? lookup phrase i) :
    reference table lookup' extract phrase' = reference table lookup extract phrase := by
  unfold reference
  rw [hlength]
  refine Option.bind_congr fun formula hformula => ?_
  have hvalue := hvalue formula hformula
  have hcomposable : Composable lookup' extract phrase' formula ↔
      Composable lookup extract phrase formula := by
    rw [composable_iff, composable_iff]
    refine and_congr (forall₂_congr fun i hi => ?_) (imp_congr_right fun _ => ?_)
    · rw [Available, Available, hvalue i hi]
    · exact exists_congr fun i => and_congr_right fun hi => by rw [hvalue i hi]
  have hselected : formula.flatMap (selected lookup' extract phrase') =
      formula.flatMap (selected lookup extract phrase) := by
    rw [List.flatMap_def, List.flatMap_def]
    exact congrArg _ (List.map_congr_left fun i hi => by rw [selected, selected, hvalue i hi])
  rw [hselected]
  exact if_congr hcomposable rfl rfl

/-- **A composition is the one read off its formula.** The memory of the records that were read and
the order of the instructions leave no trace: a phrase has a composition exactly when its length has
a formula by which it is composable, and it is then what the formula selects. Another phrase of that
length, with other records, has the same composition if the values for the characters that the
formula names are the same. -/
theorem compose_eq_reference (table : RuleTable) (lookup : Text → Text) (extract : Extract)
    (phrase : Text) :
    (compose table lookup extract phrase).toOption = reference table lookup extract phrase ∧
    ∀ (lookup' : Text → Text) (phrase' : Text), phrase'.length = phrase.length →
      (∀ formula, table.forLength phrase.length = some formula →
        ∀ i ∈ formula, value? lookup' phrase' i = value? lookup phrase i) →
      (compose table lookup' extract phrase').toOption =
        (compose table lookup extract phrase).toOption := by
  have hreference (lookup : Text → Text) (phrase : Text) :
      (compose table lookup extract phrase).toOption = reference table lookup extract phrase := by
    refine Option.ext fun composed => ?_
    rw [reference_eq_some_iff, ← compose_eq_ok_iff]
    cases compose table lookup extract phrase <;> simp [Except.toOption]
  refine ⟨hreference lookup phrase, fun lookup' phrase' hlength hvalue => ?_⟩
  rw [hreference, hreference, reference_congr table extract hlength hvalue]

/-- A table whose only formula names the first and the last of three characters. -/
def firstAndLast : RuleTable :=
  ⟨(∅ : Std.TreeMap Int Formula).insert 3 [⟨1, 1⟩, ⟨-1, -1⟩, ⟨1, 5⟩]⟩

/-- The records of two characters. -/
def twoRecords : Lexicon :=
  Lexicon.ofRows [(['中'], "[口丨,kd_k]".toList), (['国'], "[囗王丶,gw]".toList)]

/-- A character in the middle, which the formula does not name, may be another one and may have
another record. -/
theorem compose_firstAndLast :
    (compose firstAndLast (twoRecords.addRow ['人'] "[人,r]".toList).lookup .literal
      ['中', '人', '国']).toOption = some ['k', 'w', '～'] := by
  have hsame := (compose_eq_reference firstAndLast twoRecords.lookup .literal ['中', '民', '国']).2
    (twoRecords.addRow ['人'] "[人,r]".toList).lookup ['中', '人', '国'] rfl (by
      intro formula hf
      have hformula : firstAndLast.forLength 3 = some [⟨1, 1⟩, ⟨-1, -1⟩, ⟨1, 5⟩] := by decide
      rw [← Option.some.inj (hformula.symm.trans hf)]
      decide)
  rw [hsame]
  decide

end Whole

end Composition

end GlyphGloss
