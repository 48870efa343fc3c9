import GlyphGloss.Display.Field
import GlyphGloss.Record.Joined

/-!
# Records on display

The record of a character is shown by its fields between corner brackets, with a dot between
neighbours and without the fields that show nothing. A level below three shows only that many
fields. The third field holds pronunciations, whose tone numbers can be shown as marks: syllables
such as `zhong1` are then converted, by whatever conversion is given.

## Main definitions

* `Display.wrap`: parts between corner brackets.
* `Display.isNumbered`: syllables with a tone number.
* `Display.pronunciation`: the shown form of a pronunciation field.
* `Display.record`, `Display.records`: the shown forms of a record and of several.
-/

namespace GlyphGloss.Display

/-- The opening corner bracket. -/
def opening : Text := ['〔']

/-- The closing corner bracket. -/
def closing : Text := ['〕']

/-- What stands between two parts. -/
def separator : Text := " · ".toList

/-- The parts that show something, between corner brackets; nothing if no part does. -/
def wrap (parts : List Text) : Text :=
  match parts.filter (!·.isEmpty) with
  | [] => []
  | kept => opening ++ Text.join separator kept ++ closing

/-! ### Pronunciations -/

/-- The letters of syllables. -/
def isSyllableLetter (c : Char) : Bool :=
  ('a' ≤ c && c ≤ 'z') || c == 'ü'

/-- The tone numbers. -/
def isToneNumber (c : Char) : Bool :=
  '1' ≤ c && c ≤ '5'

/-- Whether a text is one letter or more and a tone number. -/
def isNumbered (t : Text) : Bool :=
  match t.getLast? with
  | some d => isToneNumber d && !t.dropLast.isEmpty && t.dropLast.all isSyllableLetter
  | none => false

/-- The shown form of a pronunciation field, with tone marks for tone numbers if asked. -/
def pronunciation (toTone : Text → Text) (toneMarks : Bool) (t : Text) : Text :=
  let words := Text.words (field t)
  Text.join [' ']
    (if toneMarks then words.map fun word => if isNumbered word then toTone word else word
      else words)

/-! ### Records -/

/-- The fields that a level shows: all from level three on, below that as many as the level says,
a negative level leaving out as many at the end. -/
def shownFields (level : Int) (fields : List Text) : List Text :=
  if 3 ≤ level then fields
  else if 0 ≤ level then fields.take level.toNat
  else fields.take (fields.length + level).toNat

/-- The shown forms of fields, of which the third is a pronunciation. -/
def fieldForms (toTone : Text → Text) (toneMarks : Bool) (fields : List Text) : List Text :=
  fields.mapIdx fun i t => if i = 2 then pronunciation toTone toneMarks t else field t

/-- The shown form of a record. -/
def record (toTone : Text → Text) (level : Int) (toneMarks : Bool) (r : Record) : Text :=
  wrap (fieldForms toTone toneMarks (shownFields level r.fields))

/-- The shown forms of records with spaces between them, without those that show nothing. -/
def records (toTone : Text → Text) (level : Int) (toneMarks : Bool) (rs : List Record) : Text :=
  Text.join [' '] ((rs.map (record toTone level toneMarks)).filter (!·.isEmpty))

end GlyphGloss.Display
