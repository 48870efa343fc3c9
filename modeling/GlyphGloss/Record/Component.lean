import GlyphGloss.Record.Basic

/-!
# Components of a field

A field is a row of components. A name in braces is one component, and so is every other code point
that is not blank, a brace that belongs to no name included.

## Main definitions

* `Component.unitName?`: the name of a unit, read after its opening brace.
* `Component.split`: the components of a field.
* `Extract`, `Record.components`: the part of a record that phrases are put together from, and its
  components.

## Main results

* `Component.split_cons`: the components of a text by its first code point.
-/

namespace GlyphGloss

namespace Component

/-- Whether a code point is a brace. -/
def isBrace (c : Char) : Bool :=
  c == '{' || c == '}'

/-- The name of a unit, read after its opening brace: code points other than braces, at least one,
up to a closing brace. -/
def unitName? (rest : Text) : Option Text :=
  let name := rest.takeWhile (!isBrace ·)
  if name ≠ [] ∧ rest[name.length]? = some '}' then some name else none

/-- The unit with a name. -/
def unit (name : Text) : Text :=
  '{' :: name ++ ['}']

/-- The components of a text, of which the given number of code points is part of a unit that was
listed already. -/
def splitAfter : (done : Nat) → Text → List Text
  | _, [] => []
  | done + 1, _ :: rest => splitAfter done rest
  | 0, c :: rest =>
    match (if c = '{' then unitName? rest else none) with
    | some name => unit name :: splitAfter (name.length + 1) rest
    | none => if isBlank c then splitAfter 0 rest else [c] :: splitAfter 0 rest

/-- The components of a field. -/
def split (field : Text) : List Text :=
  splitAfter 0 field

/-- Code points that are done are dropped. -/
theorem splitAfter_eq_drop (done : Nat) (t : Text) : splitAfter done t = split (t.drop done) := by
  induction t generalizing done with
  | nil => cases done <;> simp [split, splitAfter]
  | cons c t ih =>
    cases done with
    | zero => rfl
    | succ done => simp [splitAfter, ih]

@[simp]
theorem split_nil : split [] = [] := rfl

/-- The components of a text by its first code point: a unit if it opens one, nothing if it is
blank, and the code point itself otherwise. -/
theorem split_cons (c : Char) (rest : Text) :
    split (c :: rest) =
      match (if c = '{' then unitName? rest else none) with
      | some name => unit name :: split (rest.drop (name.length + 1))
      | none => if isBlank c then split rest else [c] :: split rest := by
  rw [split, splitAfter]
  split
  · rw [splitAfter_eq_drop]
  · rfl

end Component

/-- The part of a record that phrases are put together from. -/
inductive Extract where
  /-- The spelling. -/
  | spelling
  /-- The first code alternate. -/
  | terse
  /-- The codes as they are written, with the marks between alternates. -/
  | literal
deriving DecidableEq, Repr

/-- The components of one part of a record. -/
def Record.components (r : Record) : Extract → List Text
  | .spelling => Component.split r.spelling
  | .terse => (r.alternates.head?.map Component.split).getD []
  | .literal => Component.split r.code

end GlyphGloss
