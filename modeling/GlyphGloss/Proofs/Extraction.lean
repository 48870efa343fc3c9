import GlyphGloss.Proofs.Composition
import GlyphGloss.Proofs.Record.Component

/-!
# Which parts of records compositions are available from

A value either has a first record, from which each part can be extracted, or none. The parts differ
in the components that they give: the first alternate of the codes is a stretch of the code field,
so a phrase with codes of its first alternates has codes as they are written, and with these it has
a spelling. Where a phrase has a spelling, its codes are missing for one reason only: the code
fields of all characters that its formula names are blank.

## Main definitions

* `Composition.IsAvailable`: whether a phrase has a composition from one part of the records.

## Main results

* `Record.components_literal_ne_nil`: a first alternate with components leaves the code field some.
* `Composition.composable_literal_iff`: when codes as they are written can be composed.
* `Composition.isAvailable_ordered`: the order of the parts, and when codes are missing.
-/

namespace GlyphGloss

/-! ### Records -/

namespace Record

variable {r : Record} {raw : Text}

/-- Codes as they are written have no components exactly if the code field is blank. -/
theorem components_literal_eq_nil_iff : r.components .literal = [] ↔ ∀ c ∈ r.code, isBlank c :=
  Component.split_eq_nil_iff

/-- A first alternate with components is a stretch of a code field with components. -/
theorem components_literal_ne_nil (h : r.components .terse ≠ []) : r.components .literal ≠ [] := by
  rw [ne_eq, components_literal_eq_nil_iff]
  intro hblank
  refine h ?_
  unfold components
  cases hfirst : r.alternates.head? with
  | none => rfl
  | some alternate =>
    rw [Option.map_some, Option.getD_some, Component.split_eq_nil_iff]
    intro c hc
    have hmem : alternate ∈ r.alternates := List.mem_of_head? hfirst
    exact hblank c (Text.exists_mem_filter_splitWhen.1 ⟨alternate, hmem, hc⟩).1

/-- Where a value has a first record, each part gives its components. -/
theorem componentsOf?_eq_none_iff (extract : Extract) :
    componentsOf? raw extract = none ↔ readFirst? raw = none :=
  Option.map_eq_none_iff

theorem firstComponents_eq (raw : Text) (extract : Extract) :
    firstComponents raw extract = ((readFirst? raw).map (·.components extract)).getD [] := by
  unfold firstComponents readFirst?
  cases readAll raw <;> rfl

theorem firstComponents_literal_ne_nil (h : firstComponents raw .terse ≠ []) :
    firstComponents raw .literal ≠ [] := by
  rw [firstComponents_eq] at h ⊢
  cases hfirst : readFirst? raw with
  | none => simp [hfirst] at h
  | some r =>
    rw [hfirst] at h
    exact components_literal_ne_nil h

/-- The code components of a value are missing exactly if the code field of its first record, if
there is one, is blank. -/
theorem firstComponents_literal_eq_nil_iff :
    firstComponents raw .literal = [] ↔ ∀ r ∈ readFirst? raw, ∀ c ∈ r.code, isBlank c := by
  rw [firstComponents_eq]
  cases readFirst? raw with
  | none => simp
  | some r => simp [components_literal_eq_nil_iff]

end Record

/-! ### Compositions -/

namespace Composition

variable {table : RuleTable} {lookup : Text → Text} {extract : Extract} {phrase : Text}
  {formula : Formula}

theorem Composable.spelling (h : Composable lookup extract phrase formula) :
    Composable lookup .spelling phrase formula where
  inside := h.inside
  recorded := h.recorded
  coded hne := absurd rfl hne

theorem Composable.literal (h : Composable lookup .terse phrase formula) :
    Composable lookup .literal phrase formula where
  inside := h.inside
  recorded := h.recorded
  coded _ := by
    obtain ⟨i, hi, raw, hraw, hne⟩ := h.coded nofun
    exact ⟨i, hi, raw, hraw, Record.firstComponents_literal_ne_nil hne⟩

/-- Codes as they are written can be composed where a spelling can, unless the code fields of all
characters that are named are blank. -/
theorem composable_literal_iff :
    Composable lookup .literal phrase formula ↔
      Composable lookup .spelling phrase formula ∧
        ¬∀ i ∈ formula, ∀ raw ∈ value? lookup phrase i, ∀ r ∈ Record.readFirst? raw,
          ∀ c ∈ r.code, isBlank c := by
  simp only [← Record.firstComponents_literal_eq_nil_iff]
  constructor
  · intro h
    refine ⟨h.spelling, fun hnone => ?_⟩
    obtain ⟨i, hi, raw, hraw, hne⟩ := h.coded nofun
    exact hne (hnone i hi raw hraw)
  · rintro ⟨h, hsome⟩
    refine ⟨h.inside, h.recorded, fun _ => ?_⟩
    simpa only [not_forall, exists_prop] using hsome

/-- Whether a phrase has a composition from one part of its characters' records. -/
def IsAvailable (table : RuleTable) (lookup : Text → Text) (extract : Extract) (phrase : Text) :
    Prop :=
  ∃ composed, compose table lookup extract phrase = .ok composed

theorem isAvailable_iff :
    IsAvailable table lookup extract phrase ↔
      ∃ formula, table.forLength phrase.length = some formula ∧
        Composable lookup extract phrase formula := by
  simp only [IsAvailable, compose_eq_ok_iff]
  constructor
  · rintro ⟨composed, formula, hformula, hcomposable, -⟩
    exact ⟨formula, hformula, hcomposable⟩
  · rintro ⟨formula, hformula, hcomposable⟩
    exact ⟨_, formula, hformula, hcomposable, rfl⟩

/-- **The parts of records in the order of their availability.** Either all parts of a value have
components or none has. A phrase with a composition of first code alternates has one of codes as
they are written, and a phrase with such codes has a spelling. Where there is a spelling, the codes
as they are written are missing exactly if the formula is empty, or all characters that it names
have blank code fields in their first records. -/
theorem isAvailable_ordered (table : RuleTable) (lookup : Text → Text) (phrase : Text) :
    (∀ (raw : Text) (extract extract' : Extract),
      Record.componentsOf? raw extract = none ↔ Record.componentsOf? raw extract' = none) ∧
    (IsAvailable table lookup .terse phrase → IsAvailable table lookup .literal phrase) ∧
    (IsAvailable table lookup .literal phrase → IsAvailable table lookup .spelling phrase) ∧
    (IsAvailable table lookup .spelling phrase →
      (¬IsAvailable table lookup .literal phrase ↔
        ∃ formula, table.forLength phrase.length = some formula ∧
          (formula = [] ∨ ∀ i ∈ formula, ∀ raw ∈ value? lookup phrase i,
            ∀ r ∈ Record.readFirst? raw, ∀ c ∈ r.code, isBlank c))) := by
  simp only [isAvailable_iff, Record.componentsOf?_eq_none_iff, implies_true, true_and]
  refine ⟨?_, ?_, ?_⟩
  · rintro ⟨formula, hformula, h⟩
    exact ⟨formula, hformula, h.literal⟩
  · rintro ⟨formula, hformula, h⟩
    exact ⟨formula, hformula, h.spelling⟩
  · rintro ⟨formula, hformula, h⟩
    simp only [hformula, Option.some.injEq, exists_eq_left', composable_literal_iff, h, true_and,
      not_not]
    -- An empty formula names no character.
    exact (or_iff_right_of_imp (by rintro rfl; exact nofun)).symm

/-- The records of two characters, whose codes are blank or left out, and of a third one. -/
def blankCodes : Lexicon :=
  Lexicon.ofRows [(['中'], "[口丨, \t,zhong1]".toList), (['国'], "[囗王丶]".toList),
    (['人'], "[人,r]".toList)]

/-- The code of a character that the formula does not name is of no use. -/
theorem isAvailable_ordered_blankCodes :
    IsAvailable firstAndLast blankCodes.lookup .spelling ['中', '人', '国'] ∧
      ¬IsAvailable firstAndLast blankCodes.lookup .literal ['中', '人', '国'] ∧
      ¬IsAvailable firstAndLast blankCodes.lookup .terse ['中', '人', '国'] := by
  obtain ⟨-, hliteral, -, hmissing⟩ :=
    isAvailable_ordered firstAndLast blankCodes.lookup ['中', '人', '国']
  have hspelling : IsAvailable firstAndLast blankCodes.lookup .spelling ['中', '人', '国'] :=
    ⟨['口', '丶', '～'], rfl⟩
  simp only [← Record.firstComponents_literal_eq_nil_iff] at hmissing
  have hnone := (hmissing hspelling).2 ⟨[⟨1, 1⟩, ⟨-1, -1⟩, ⟨1, 5⟩], by decide, .inr (by decide)⟩
  exact ⟨hspelling, hnone, mt hliteral hnone⟩

end Composition

end GlyphGloss
