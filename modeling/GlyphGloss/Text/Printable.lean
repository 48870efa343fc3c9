import GlyphGloss.Text.Unassigned

/-!
# Printable code points

A code point is printable when it has a character and is no control, format character, surrogate,
private character, separator of lines or paragraphs, nor a space other than U+0020.

## Main definitions

* `isPrintable`: the code points that a quoted text shows as they are.
-/

namespace GlyphGloss

/-- The ranges of controls, format characters, surrogates, private characters, line and paragraph
separators, and spaces other than U+0020. -/
def hiddenRanges : List (Nat × Nat) :=
  [(0x0, 0x1F), (0x7F, 0xA0), (0xAD, 0xAD), (0x600, 0x605), (0x61C, 0x61C), (0x6DD, 0x6DD),
   (0x70F, 0x70F), (0x890, 0x891), (0x8E2, 0x8E2), (0x1680, 0x1680), (0x180E, 0x180E),
   (0x2000, 0x200F), (0x2028, 0x202F), (0x205F, 0x2064), (0x2066, 0x206F), (0x3000, 0x3000),
   (0xD800, 0xF8FF), (0xFEFF, 0xFEFF), (0xFFF9, 0xFFFB), (0x110BD, 0x110BD), (0x110CD, 0x110CD),
   (0x13430, 0x13438), (0x1BCA0, 0x1BCA3), (0x1D173, 0x1D17A), (0xE0001, 0xE0001),
   (0xE0020, 0xE007F), (0xF0000, 0xFFFFD), (0x100000, 0x10FFFD)]

/-- The code points that a quoted text shows as they are. -/
def isPrintable (c : Char) : Bool :=
  let n := c.toNat
  (0x20 ≤ n && n ≤ 0x7E) || !(inRanges hiddenRanges n || inRanges unassignedRanges n)

end GlyphGloss
