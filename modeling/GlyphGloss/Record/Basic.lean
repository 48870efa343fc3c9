import GlyphGloss.Text.Basic

/-!
# Records

The record of a character is written as fields between square brackets, separated by commas, as in
`[{于下}{四点}丶,kd_kdi,qiu2]`: a spelling, codes and pronunciations, and possibly more. A comma
inside braces belongs to its field. Brackets may be missing, so that every text has fields.

## Main definitions

* `Record`: the fields of a record, with `Record.spelling`, `Record.code`, `Record.pronunciation`
  and `Record.alternates`.
* `Record.stripBrackets`: the text between the brackets.
* `Record.fieldsFrom`, `Record.splitFields`: the fields of a raw record.
* `Record.write`: the raw record with given fields.

## Main results

* `Record.join_fieldsFrom`: joining the fields with commas gives the text back.
* `Record.splitFields_eq_nil_iff`: only an empty text has no fields.
-/

namespace GlyphGloss

/-- The fields of the record of a character. -/
structure Record where
  /-- The fields, in order. -/
  fields : List Text
deriving DecidableEq, Repr

namespace Record

/-! ### The parts of a record -/

/-- The spelling: the first field. -/
def spelling (r : Record) : Text :=
  r.fields[0]?.getD []

/-- The codes: the second field. -/
def code (r : Record) : Text :=
  r.fields[1]?.getD []

/-- The pronunciations: the third field. -/
def pronunciation (r : Record) : Text :=
  r.fields[2]?.getD []

/-- The code alternates, which underscores separate. -/
def alternates (r : Record) : List Text :=
  (r.code.splitAtEvery '_').filter (!·.isEmpty)

/-! ### Splitting into fields -/

/-- The text without an opening bracket at its start. -/
def dropOpening : Text → Text
  | '[' :: rest => rest
  | t => t

/-- The text without a closing bracket at its end. -/
def dropClosing (t : Text) : Text :=
  if t.getLast? = some ']' then t.dropLast else t

/-- The text between the brackets of a raw record, each of which may be missing. -/
def stripBrackets (raw : Text) : Text :=
  dropClosing (dropOpening raw.trim)

/-- The depth of braces after one more code point. A closing brace without an opening one is an
ordinary code point. -/
def depthAfter (depth : Nat) (c : Char) : Nat :=
  if c = '{' then depth + 1 else if c = '}' then depth - 1 else depth

/-- The fields of a text that starts at a depth of braces: the parts between the commas at depth
zero. -/
def fieldsFrom : (depth : Nat) → Text → List Text
  | _, [] => [[]]
  | depth, c :: rest =>
    if c = ',' ∧ depth = 0 then [] :: fieldsFrom 0 rest
    else Text.consHead c (fieldsFrom (depthAfter depth c) rest)

/-- The fields of a raw record. -/
def splitFields (raw : Text) : List Text :=
  let body := stripBrackets raw
  if body.isEmpty then [] else fieldsFrom 0 body

/-- The raw record with these fields. -/
def write (r : Record) : Text :=
  '[' :: Text.join [','] r.fields ++ [']']

/-- Every text has a field. -/
theorem fieldsFrom_ne_nil (depth : Nat) (t : Text) : fieldsFrom depth t ≠ [] := by
  cases t with
  | nil => simp [fieldsFrom]
  | cons c t =>
    rw [fieldsFrom]
    split
    · simp
    · cases fieldsFrom (depthAfter depth c) t <;> simp [Text.consHead]

/-- Joining the fields with commas gives the text back. -/
theorem join_fieldsFrom (depth : Nat) (t : Text) : Text.join [','] (fieldsFrom depth t) = t := by
  induction t generalizing depth with
  | nil => simp [fieldsFrom, Text.join, List.intercalate]
  | cons c t ih =>
    rw [fieldsFrom]
    split
    · next h =>
      have ih := ih 0
      cases hs : fieldsFrom 0 t with
      | nil => exact absurd hs (fieldsFrom_ne_nil 0 t)
      | cons field fields =>
        rw [hs] at ih
        simp only [Text.join, List.intercalate] at ih
        simp [Text.join, List.intercalate, ih, h.1]
    · rw [Text.join_consHead _ _ (fieldsFrom_ne_nil _ t), ih]

/-- Only a raw record with nothing between its brackets has no fields. -/
theorem splitFields_eq_nil_iff (raw : Text) : splitFields raw = [] ↔ stripBrackets raw = [] := by
  unfold splitFields
  simp only [List.isEmpty_iff]
  split
  · simp_all
  · next h => simp [h, fieldsFrom_ne_nil]

end Record

end GlyphGloss
