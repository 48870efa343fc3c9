import GlyphGloss.Text.Basic
import GlyphGloss.Text.Printable

/-!
# Quoted texts

Messages show a text between quotes, on one line and without code points that cannot be printed.
Single quotes are used, unless the text holds a single quote and no double quote. Inside, the
backslash and the quote in use carry a backslash, tab, line feed and carriage return have their
letters, and any other code point that is not printable is written by its number. Bytes are shown in
the same way behind a `b`, those beyond ASCII by their numbers.

## Main definitions

* `Text.quoteMark`: the quote that a text is put between.
* `Text.escape`: one code point inside quotes.
* `Text.quoted`: the quoted form of a text.
* `Text.quotedBytes`: the quoted form of bytes.

## Main results

* `escape_of_isPrintable`: a printable code point that is neither the backslash nor the quote in
  use stands for itself.
-/

namespace GlyphGloss.Text

/-- The quote that a text is put between. -/
def quoteMark (t : Text) : Char :=
  if '\'' ∈ t ∧ '"' ∉ t then '"' else '\''

/-- The lower-case hexadecimal digits of a number, padded with zeros to a width. -/
def hexDigits (width n : Nat) : Text :=
  let digits := Nat.toDigits 16 n
  List.replicate (width - digits.length) '0' ++ digits

/-- One code point inside quotes. -/
def escape (mark c : Char) : Text :=
  if c = mark ∨ c = '\\' then ['\\', c]
  else if c = '\t' then ['\\', 't']
  else if c = '\n' then ['\\', 'n']
  else if c = '\r' then ['\\', 'r']
  else if isPrintable c then [c]
  else if c.toNat < 0x100 then '\\' :: 'x' :: hexDigits 2 c.toNat
  else if c.toNat < 0x10000 then '\\' :: 'u' :: hexDigits 4 c.toNat
  else '\\' :: 'U' :: hexDigits 8 c.toNat

/-- The quoted form of a text. -/
def quoted (t : Text) : Text :=
  let mark := t.quoteMark
  mark :: t.flatMap (escape mark) ++ [mark]

/-- One byte inside quotes. -/
def escapeByte (mark : Char) (b : UInt8) : Text :=
  if b < 0x80 then escape mark (.ofNat b.toNat) else '\\' :: 'x' :: hexDigits 2 b.toNat

/-- The quoted form of bytes. -/
def quotedBytes (bytes : List UInt8) : Text :=
  let mark := quoteMark (bytes.map fun b => .ofNat b.toNat)
  'b' :: mark :: bytes.flatMap (escapeByte mark) ++ [mark]

/-- A printable code point that is neither the backslash nor the quote in use stands for
itself. -/
theorem escape_of_isPrintable {mark c : Char} (h : isPrintable c) (hm : c ≠ mark)
    (hb : c ≠ '\\') : escape mark c = [c] := by
  have ht : c ≠ '\t' := by rintro rfl; revert h; decide
  have hn : c ≠ '\n' := by rintro rfl; revert h; decide
  have hr : c ≠ '\r' := by rintro rfl; revert h; decide
  simp [escape, h, hm, hb, ht, hn, hr]

end GlyphGloss.Text
