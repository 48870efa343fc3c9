import GlyphGloss.Text.Basic

/-!
# Fields on display

A field is shown with angle brackets for braces and with spaces for underscores; runs of blanks
become single spaces, and blanks at the ends go.

## Main definitions

* `Display.symbol`: the code point shown for a code point.
* `Display.field`: the shown form of a field.

## Main results

* `Display.field_nil`: an empty field is shown empty.
-/

namespace GlyphGloss.Display

/-- The code point that is shown for a code point. -/
def symbol (c : Char) : Char :=
  if c = '{' then '<' else if c = '}' then '>' else if c = '_' then ' ' else c

/-- The words that a field is shown by. -/
def fieldWords (t : Text) : List Text :=
  Text.words (t.map symbol)

/-- The shown form of a field. -/
def field (t : Text) : Text :=
  Text.join [' '] (fieldWords t)

/-- An empty field is shown empty. -/
@[simp]
theorem field_nil : field [] = [] := rfl

end GlyphGloss.Display
