import GlyphGloss.Text.Basic

/-!
# Places in a document

Where reading stands in a document: the text that is left, with its length, and how many code
points, lines and columns lie behind. A byte order mark takes no column.

## Main definitions

* `Yaml.isBreak`, `Yaml.isSpaceOrEnd`: the code points that break lines and that stand apart.
* `Yaml.Cursor`, `Yaml.Cursor.start`: a place in a document, and the first one.
* `Yaml.Cursor.skip`: the place some code points further on.
* `Yaml.Cursor.takeBreak`: a line break read.
* `Yaml.Cursor.atMarker`: whether a marker between documents follows.
-/

namespace GlyphGloss.Yaml

/-- The code points that break lines. -/
def isBreak (c : Char) : Bool :=
  c == '\n' || c == '\r' || c == '\u0085' || c == '\u2028' || c == '\u2029'

/-- Whether a code point stands apart: a space, a tab, a line break or the end of the document. -/
def isSpaceOrEnd : Option Char → Bool
  | none => true
  | some c => c == ' ' || c == '\t' || isBreak c

/-- A place in a document. -/
structure Cursor where
  /-- The text that is left. -/
  rest : Text
  /-- The number of code points that are left. -/
  left : Nat
  /-- The number of code points behind. -/
  index : Nat := 0
  /-- The number of lines behind. -/
  line : Nat := 0
  /-- The number of columns behind on this line. -/
  column : Nat := 0

namespace Cursor

/-- The start of a text. -/
def start (t : Text) : Cursor :=
  { rest := t, left := t.length }

/-- The code point some places further on. -/
def peek (c : Cursor) (n : Nat) : Option Char :=
  c.rest[n]?

/-- The place behind the next code point. -/
def step (c : Cursor) : Cursor :=
  match c.rest with
  | [] => c
  | ch :: rest =>
    let c := { c with rest, left := c.left - 1, index := c.index + 1 }
    if ch = '\r' ∧ rest.head? = some '\n' then { c with column := c.column + 1 }
    else if isBreak ch then { c with line := c.line + 1, column := 0 }
    else if ch = '\uFEFF' then c
    else { c with column := c.column + 1 }

/-- The place behind the next `n` code points. -/
def skip : Nat → Cursor → Cursor
  | 0, c => c
  | n + 1, c => skip n c.step

/-- The code point that a line break stands for, and the place behind it. -/
def takeBreak (c : Cursor) : Option (Char × Cursor) :=
  match c.rest with
  | '\r' :: '\n' :: _ => some ('\n', c.skip 2)
  | ch :: _ =>
    if ch = '\u2028' ∨ ch = '\u2029' then some (ch, c.skip 1)
    else if isBreak ch then some ('\n', c.skip 1)
    else none
  | [] => none

/-- Whether the marker of a document's start or end follows. -/
def atMarker (c : Cursor) : Bool :=
  (['-', '-', '-'].isPrefixOf c.rest || ['.', '.', '.'].isPrefixOf c.rest) &&
    isSpaceOrEnd (c.peek 3)

/-- The place behind the spaces that follow. -/
def skipSpaces (c : Cursor) : Cursor :=
  c.skip (c.rest.takeWhile (· == ' ')).length

end Cursor

end GlyphGloss.Yaml
