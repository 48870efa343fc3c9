import GlyphGloss.OrderedMap
import GlyphGloss.Text.Basic

/-!
# Lexicons

A lexicon gives a text to each of finitely many keys. It is gathered from rows, of which several may
have one key: the distinct values of a key that are not empty are kept in order, and its text is
these values with single spaces between them. A key without a row has the empty text.

## Main definitions

* `Lexicon`: the values of each key, in the order of the keys' first rows.
* `Lexicon.addRow`, `Lexicon.ofRows`: gathering rows.
* `Lexicon.lookup`, `Lexicon.items`: the text of a key, and all keys with their texts.

## Main results

* `Lexicon.valuesOf_addRow`: a row adds to the values of its key and of no other.
-/

namespace GlyphGloss

/-- The distinct values of each key, in order. -/
abbrev Lexicon := OrderedMap Text (List Text)

namespace Lexicon

/-- The lexicon without keys. -/
def empty : Lexicon := OrderedMap.empty

/-- The values of a key. -/
def valuesOf (m : Lexicon) (key : Text) : List Text :=
  (m.get? key).getD []

/-- The values with one more, which is left out if it is empty or there already. -/
def addValue (values : List Text) (value : Text) : List Text :=
  if value.isEmpty ∨ value ∈ values then values else values ++ [value]

/-- The lexicon with one more row. -/
def addRow (m : Lexicon) (key value : Text) : Lexicon :=
  m.insert key (addValue (m.valuesOf key) value)

/-- The lexicon of rows of keys and values. -/
def ofRows (rows : List (Text × Text)) : Lexicon :=
  rows.foldl (fun m (key, value) => m.addRow key value) empty

/-- The text of a key, empty without a row. -/
def lookup (m : Lexicon) (key : Text) : Text :=
  Text.join [' '] (m.valuesOf key)

/-- The keys with their texts, in the order of the keys' first rows. -/
def items (m : Lexicon) : List (Text × Text) :=
  m.toList.map fun (key, values) => (key, Text.join [' '] values)

/-- A row adds to the values of its key and of no other. -/
theorem valuesOf_addRow (m : Lexicon) (key value key' : Text) :
    (m.addRow key value).valuesOf key' =
      if key = key' then addValue (m.valuesOf key) value else m.valuesOf key' := by
  unfold addRow
  rw [valuesOf, OrderedMap.get?_insert]
  split <;> rfl

/-- The lexicon of rows and one more row. -/
theorem ofRows_concat (rows : List (Text × Text)) (key value : Text) :
    ofRows (rows ++ [(key, value)]) = (ofRows rows).addRow key value := by
  simp [ofRows]

end Lexicon

end GlyphGloss
