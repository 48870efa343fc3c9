import GlyphGloss.Value.Reader

/-!
# What the program is given

Settings documents are read and syllables get their tone marks by tools that the program is given.
Nothing about them is fixed here.

## Main definitions

* `Tools`: a reader of settings documents and a conversion of syllables.
-/

namespace GlyphGloss

/-- The tools that the program works with. -/
structure Tools where
  /-- The reader of settings documents. -/
  reader : Reader
  /-- The syllable with a tone mark for one with a tone number. -/
  toTone : Text → Text

end GlyphGloss
