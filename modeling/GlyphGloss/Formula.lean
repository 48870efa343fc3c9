import GlyphGloss.Text.Basic

/-!
# Formulas

A formula says from which characters of a phrase, and from which components of each, the phrase's
own spelling is put together. It is written as letter pairs such as `AaBaCaZa`: the upper-case
letter is the position of a character, the lower-case letter the position of one of its
components. Positions are signed and start at one: `A` to `T` count from the start, `Z` back to
`U` count from the end.

## Main definitions

* `Instruction`, `Formula`: one extraction, and the list of them that a formula stands for.
* `Position.ofLetter?`, `Position.letter`: reading and writing one letter.
* `Formula.parse?`, `Formula.encode`: reading and writing formulas.

## Main results

* `Formula.pairs?_append`: pairs are read one after the other.
-/

namespace GlyphGloss

/-- One extraction: a component of a character of a phrase, both by signed position. -/
structure Instruction where
  /-- The signed position of the character in the phrase. -/
  character : Int
  /-- The signed position of the component in the character. -/
  component : Int
deriving DecidableEq, Repr

/-- The extractions of a formula, in order. -/
abbrev Formula := List Instruction

namespace Position

/-- How many letters count from the start; the other six of the alphabet count from the end. -/
def forward : Nat := 20

/-- The position that a letter names in the alphabet of 26 letters from `first`. -/
def ofLetter? (first c : Char) : Option Int :=
  let n := c.toNat - first.toNat
  if c.toNat < first.toNat ∨ 26 ≤ n then none
  else if n < forward then some (n + 1)
  else some ((n : Int) - 26)

/-- The letter that names a position in the alphabet from `first`. -/
def letter (first : Char) (p : Int) : Char :=
  Char.ofNat (first.toNat + (if 0 < p then p - 1 else p + 26).toNat)

end Position

namespace Formula

/-- The extractions that a list of letter pairs names. -/
def pairs? : Text → Option Formula
  | [] => some []
  | [_] => none
  | upper :: lower :: rest => do
    let character ← Position.ofLetter? 'A' upper
    let component ← Position.ofLetter? 'a' lower
    let more ← pairs? rest
    return { character, component } :: more

/-- The formula that a text writes: one letter pair or more. -/
def parse? (t : Text) : Option Formula :=
  if t.isEmpty then none else pairs? t

/-- The text of a formula. -/
def encode (f : Formula) : Text :=
  f.flatMap fun i => [Position.letter 'A' i.character, Position.letter 'a' i.component]

/-- Pairs are read one after the other. -/
theorem pairs?_append {s t : Text} {f g : Formula} (hs : pairs? s = some f)
    (ht : pairs? t = some g) : pairs? (s ++ t) = some (f ++ g) := by
  fun_induction pairs? s generalizing f with
  | case1 => simp_all
  | case2 => simp at hs
  | case3 upper lower rest ih =>
    simp only [Option.bind_eq_bind, Option.bind_eq_some_iff, Option.pure_def,
      Option.some.injEq] at hs
    obtain ⟨c, hc, k, hk, more, hmore, rfl⟩ := hs
    simp [pairs?, hc, hk, ih hmore]

end Formula

end GlyphGloss
