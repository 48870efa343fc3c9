import GlyphGloss.Formula
import GlyphGloss.OrderedMap
import GlyphGloss.Record.Joined
import GlyphGloss.Rules.Table

/-!
# Composing phrases

The spelling or the code of a phrase is put together from the components of its characters, as the
formula for its length says. A position outside the phrase, a character without a record, and codes
of which there are none at all leave the phrase without a composition; a position outside the
components of a character is shown by a placeholder. The record of a character that the formula
names more than once is read once.

## Main definitions

* `Position.resolve?`, `Position.locate?`: the index that a signed position names, and the item
  there.
* `Composition.Gap`: why a phrase has no composition.
* `Composition.Progress`, `Composition.step`: how far a composition has come, and one instruction
  of it.
* `Composition.compose`: the composition of a phrase.

## Main results

* `Position.resolve?_lt`: a position names an index inside its list.
-/

namespace GlyphGloss

/-- The index that a signed position names in a list of a size: positive positions count from the
start and negative ones from the end, both starting at one. -/
def Position.resolve? (p : Int) (size : Nat) : Option Nat :=
  let i := if 0 < p then p - 1 else size + p
  if 0 ≤ i ∧ i < size then some i.toNat else none

/-- The index that a signed position names in a list, with the item there. -/
def Position.locate? {α : Type} (xs : List α) (p : Int) : Option (Nat × α) :=
  (Position.resolve? p xs.length).bind fun i => xs[i]?.map (i, ·)

/-- A position names an index inside its list. -/
theorem Position.resolve?_lt {p : Int} {size i : Nat} (h : Position.resolve? p size = some i) :
    i < size := by
  unfold Position.resolve? at h
  simp only [Option.ite_none_right_eq_some, Option.some.injEq] at h
  omega

namespace Composition

/-- What is shown for a component that a character does not have. -/
def placeholder : Text := ['～']

/-- Why a phrase has no composition. -/
inductive Gap where
  /-- No formula covers the length of the phrase. -/
  | noFormula (length : Nat)
  /-- The formula names a character outside the phrase. -/
  | outside (position : Int)
  /-- A character that the formula names has no record. -/
  | noRecord (c : Char)
  /-- No character that the formula names has a code. -/
  | noCodes
deriving DecidableEq, Repr

/-- How far the composition of a phrase has come. -/
structure Progress where
  /-- The components of the characters whose records were read, by their places in the phrase. -/
  known : OrderedMap Nat (List Text) := ∅
  /-- What was chosen so far, in order. -/
  chosen : List Text := []

/-- The components of the character at a place of a phrase, which become known if they were not, and
what is known then. -/
def componentsAt (lookup : Text → Text) (extract : Extract) (known : OrderedMap Nat (List Text))
    (place : Nat) (c : Char) : Except Gap (OrderedMap Nat (List Text) × List Text) :=
  match known.get? place with
  | some components => .ok (known, components)
  | none =>
    match Record.componentsOf? (lookup [c]) extract with
    | none => .error (.noRecord c)
    | some components => .ok (known.insert place components, components)

/-- The component at a signed position, or the placeholder. -/
def choose (components : List Text) (p : Int) : Text :=
  ((Position.locate? components p).map Prod.snd).getD placeholder

/-- One instruction carried out on a phrase whose characters have the given records. -/
def step (lookup : Text → Text) (extract : Extract) (phrase : Text) (p : Progress)
    (i : Instruction) : Except Gap Progress :=
  match Position.locate? phrase i.character with
  | none => .error (.outside i.character)
  | some (place, c) =>
    match componentsAt lookup extract p.known place c with
    | .error gap => .error gap
    | .ok (known, components) =>
      .ok { known, chosen := p.chosen ++ [choose components i.component] }

/-- The composition of a phrase from one part of its characters' records. -/
def compose (table : RuleTable) (lookup : Text → Text) (extract : Extract) (phrase : Text) :
    Except Gap Text :=
  match table.forLength phrase.length with
  | none => .error (.noFormula phrase.length)
  | some formula => do
    let p ← formula.foldlM (step lookup extract phrase) {}
    if extract ≠ .spelling ∧ p.known.values.all (·.isEmpty) then .error .noCodes
    else .ok p.chosen.flatten

/-- Whether the composition of a phrase looks up a character. -/
def looksUp (table : RuleTable) (phrase : Text) : Bool :=
  match table.forLength phrase.length with
  | some (i :: _) => (Position.resolve? i.character phrase.length).isSome
  | _ => false

end Composition

end GlyphGloss
