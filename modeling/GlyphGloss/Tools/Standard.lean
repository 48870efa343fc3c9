import GlyphGloss.Display.Tone
import GlyphGloss.Tools
import GlyphGloss.Yaml.Reader

/-!
# The tools of the program

## Main definitions

* `Tools.standard`: the tools that the program is run with.
-/

namespace GlyphGloss

/-- The tools that the program is run with. -/
def Tools.standard : Tools where
  reader := Yaml.reader
  toTone := Tone.convert

end GlyphGloss
