import GlyphGloss.Proofs.Composition
import GlyphGloss.Proofs.Record.Component

/-!
# Where the components of a composition meet

A composition puts the components that it selects one behind the other, with nothing in between, so
that an opening brace of one component could meet a closing brace of another one and make a unit
with it. Where every brace of the fields that are read belongs to a unit, this cannot happen: what
an instruction selects is then a component wherever it stands, as is the placeholder, and the
composition is taken apart again into what its instructions selected.

## Main definitions

* `Record.part`: the text that the components of one part of a record are cut from.
* `Composition.IsBracedAt`: whether an instruction refers to a text whose braces belong to units.

## Main results

* `Composition.isAtom_selected`: what an instruction selects is a component wherever it stands.
* `Composition.split_compose`: the components of a composition.
-/

namespace GlyphGloss

namespace Record

/-- The text that the components of one part of a record are cut from. -/
def part (r : Record) : Extract → Text
  | .spelling => r.spelling
  | .terse => r.alternates.head?.getD []
  | .literal => r.code

theorem components_eq_split (r : Record) (extract : Extract) :
    r.components extract = Component.split (r.part extract) := by
  cases extract with
  | spelling | literal => rfl
  | terse =>
    -- Without an alternate there is nothing to cut.
    unfold components part
    cases r.alternates.head? <;> rfl

end Record

namespace Composition

variable {table : RuleTable} {lookup : Text → Text} {extract : Extract} {phrase composed : Text}
  {i : Instruction}

/-- Whether every brace belongs to a unit in the text that an instruction refers to: one part of the
first record of the character that it names. -/
def IsBracedAt (lookup : Text → Text) (extract : Extract) (phrase : Text) (i : Instruction) :
    Prop :=
  ∀ raw ∈ value? lookup phrase i, ∀ r ∈ Record.readFirst? raw, Component.IsBraced (r.part extract)

instance : Decidable (IsBracedAt lookup extract phrase i) :=
  inferInstanceAs (Decidable (∀ raw ∈ value? lookup phrase i, ∀ r ∈ Record.readFirst? raw,
    Component.IsBraced (r.part extract)))

/-- What an instruction selects is a component wherever it stands. -/
theorem isAtom_selected (h : IsBracedAt lookup extract phrase i) :
    Component.IsAtom (selected lookup extract phrase i) := by
  rcases selected_eq_or_mem lookup extract phrase i with hplaceholder | ⟨raw, hraw, hcomponent⟩
  · rw [hplaceholder]
    exact .single (by decide) (by decide)
  · obtain ⟨r, hr, hcomponent⟩ := Record.exists_of_mem_firstComponents hcomponent
    rw [Record.components_eq_split] at hcomponent
    exact (h raw hraw r hr).isAtom_of_mem_split _ hcomponent

/-- **The components of a composition are what its instructions select.** Let every brace belong to
a unit in the spelling of the first record of each character that the formula names. Then the
composed spelling has as many components as the formula has instructions, and each of them is the
component or the placeholder that its instruction selects. The same holds for codes as they are
written, with the code field in place of the spelling, and for first alternates. -/
theorem split_compose (h : compose table lookup extract phrase = .ok composed) :
    ∃ formula, table.forLength phrase.length = some formula ∧
      ((∀ i ∈ formula, IsBracedAt lookup extract phrase i) →
        Component.split composed = formula.map (selected lookup extract phrase)) := by
  obtain ⟨formula, hformula, -, rfl⟩ := (compose_eq_ok_iff _ _ _ _ _).1 h
  refine ⟨formula, hformula, fun hbraced => ?_⟩
  rw [List.flatMap_def]
  exact Component.split_flatten (List.forall_mem_map.2 fun i hi => isAtom_selected (hbraced i hi))

/-- The records of two characters with units in both fields, one of them with a further record that
has a brace outside of units. -/
def unitsInBoth : Lexicon :=
  Lexicon.ofRows [(['中'], "[\x7b于下\x7d丶,\x7bk_d\x7d d]".toList), (['中'], "[\x7b,\x7d]".toList),
    (['国'], "[囗\x7b王 丶\x7d,g\x7bw\x7d]".toList)]

/-- Units of two characters meet, and a placeholder stands behind them. -/
theorem split_compose_unitsInBoth :
    Component.split "\x7b于下\x7d\x7b王 丶\x7d～".toList =
        [⟨1, 1⟩, ⟨-1, -1⟩, ⟨1, 5⟩].map (selected unitsInBoth.lookup .spelling ['中', '人', '国']) ∧
      Component.split "\x7bk_d\x7d\x7bw\x7d～".toList =
        [⟨1, 1⟩, ⟨-1, -1⟩, ⟨1, 5⟩].map (selected unitsInBoth.lookup .literal ['中', '人', '国']) := by
  have hformula : firstAndLast.forLength 3 = some [⟨1, 1⟩, ⟨-1, -1⟩, ⟨1, 5⟩] := by decide
  have hspelled : compose firstAndLast unitsInBoth.lookup .spelling ['中', '人', '国'] =
      .ok "\x7b于下\x7d\x7b王 丶\x7d～".toList := by rfl
  have hcoded : compose firstAndLast unitsInBoth.lookup .literal ['中', '人', '国'] =
      .ok "\x7bk_d\x7d\x7bw\x7d～".toList := by rfl
  obtain ⟨_, hfound, hsplit⟩ := split_compose hspelled
  obtain ⟨_, hfound', hsplit'⟩ := split_compose hcoded
  obtain rfl := Option.some.inj (hformula.symm.trans hfound)
  obtain rfl := Option.some.inj (hformula.symm.trans hfound')
  exact ⟨hsplit (by decide), hsplit' (by decide)⟩

end Composition

end GlyphGloss
