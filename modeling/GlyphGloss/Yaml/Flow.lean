import GlyphGloss.Number.Decimal
import GlyphGloss.Text.Utf8
import GlyphGloss.Yaml.Cursor

/-!
# Texts of scalars

The text of a scalar as it is written in a document, plain or in quotes. A line break inside a
scalar is a space, and further line breaks are kept; the escapes of double quotes stand for code
points.

## Main definitions

* `Yaml.Fault`: why a document could not be read.
* `Yaml.plainScalar`: a plain scalar.
* `Yaml.quotedScalar`: a scalar in quotes.
-/

namespace GlyphGloss.Yaml

/-- Why a document could not be read. -/
inductive Fault where
  /-- The document is not well-formed. -/
  | malformed
  /-- A numeral has no digits behind the mark of its base. -/
  | noDigits (base : Nat)
  /-- A numeral has more digits than are read. -/
  | tooLong (digits : Nat)
  /-- A fraction in base sixty has a part whose weight is too large for a fraction. -/
  | tooManySixtieths
  /-- A date has a part that is out of its range. -/
  | noDate (detail : String)
  /-- An escape gives a number that no code point has. -/
  | noCodePoint (n : Nat)
  /-- The document ends inside a scalar. -/
  | unfinished
  /-- The document cannot be decoded further. -/
  | undecodable (fault : Utf8.Fault)
deriving DecidableEq, Repr

/-! ### Folded line breaks -/

/-- What a row of line breaks with blanks between them comes to. -/
structure Fold where
  /-- The text that it stands for. -/
  text : Text
  /-- The place behind it. -/
  cursor : Cursor
  /-- Whether a marker between documents follows one of the line breaks. -/
  stopped : Bool

/-- The line breaks and the blanks that follow, up to a marker between documents. -/
def foldBreaks (isGap : Char → Bool) : (fuel : Nat) → Cursor → Fold
  | 0, c => ⟨[], c, false⟩
  | fuel + 1, c =>
    if c.atMarker then ⟨[], c, true⟩
    else
      let c := c.skip (c.rest.takeWhile isGap).length
      match c.takeBreak with
      | none => ⟨[], c, false⟩
      | some (b, c) =>
        let more := foldBreaks isGap fuel c
        { more with text := b :: more.text }

/-- The line break `b` and what follows it: a single line feed is a space, and the first of several
goes. -/
def foldFrom (isGap : Char → Bool) (b : Char) (c : Cursor) : Fold :=
  let more := foldBreaks isGap (c.left + 1) c
  let first : Text := if b ≠ '\n' then [b] else if more.text.isEmpty then [' '] else []
  { more with text := first ++ more.text }

/-! ### Plain scalars -/

/-- The code points that structure flow collections. -/
def isFlowMark (c : Char) : Bool :=
  c == ',' || c == '[' || c == ']' || c == '{' || c == '}'

/-- The code points up to a space, the mark of a value or, in a flow collection, a mark of its
structure. -/
def plainRun (flow : Bool) : Text → Text
  | [] => []
  | c :: rest =>
    if isSpaceOrEnd (some c) || (flow && (isFlowMark c || c == '?')) ||
        (c == ':' && (isSpaceOrEnd rest.head? || (flow && rest.head?.any isFlowMark))) then []
    else c :: plainRun flow rest

/-- A plain scalar, or the rest of one. -/
structure Plain where
  /-- The text. -/
  text : Text
  /-- The place behind it and the blanks that follow. -/
  cursor : Cursor
  /-- Whether these blanks hold a line break. -/
  broken : Bool

/-- The blanks behind a run of a plain scalar: nothing in `text` if there are none, or if a marker
between documents follows. -/
def plainGap (c : Cursor) : Plain :=
  let spaces := c.rest.takeWhile (· == ' ')
  let c := c.skip spaces.length
  match c.takeBreak with
  | none => ⟨spaces, c, false⟩
  | some (b, c) =>
    let fold := foldFrom (· == ' ') b c
    ⟨if fold.stopped then [] else fold.text, fold.cursor, true⟩

/-- The rest of a plain scalar behind the given blanks. Outside flow collections it goes on only on
lines that are indented. -/
def plainFrom (flow : Bool) (indent : Int) :
    (fuel : Nat) → (gap : Text) → (broken : Bool) → Cursor → Plain
  | 0, _, broken, c => ⟨[], c, broken⟩
  | fuel + 1, gap, broken, c =>
    match (if c.peek 0 = some '#' then [] else plainRun flow c.rest) with
    | [] => ⟨[], c, broken⟩
    | run =>
      let next := plainGap (c.skip run.length)
      if next.text.isEmpty || next.cursor.peek 0 == some '#' ||
          (!flow && next.cursor.column < indent) then
        ⟨gap ++ run, next.cursor, next.broken⟩
      else
        let more := plainFrom flow indent fuel next.text next.broken next.cursor
        { more with text := gap ++ run ++ more.text }

/-- The plain scalar at a place, in a block with the given indentation. -/
def plainScalar (flow : Bool) (indent : Int) (c : Cursor) : Plain :=
  plainFrom flow (indent + 1) (c.left + 1) [] false c

/-- The number of code points behind a plain scalar that tell where it ends: a colon and the one
behind it, and the first three of a line, which may be a marker between documents. -/
def Plain.lookahead (p : Plain) : Nat :=
  max (if p.cursor.peek 0 = some ':' then 2 else 1) (if p.broken then 3 - p.cursor.column else 0)

/-! ### Scalars in quotes -/

/-- The code points that escapes of one letter stand for. -/
def escapes : List (Char × Char) :=
  [('0', '\x00'), ('a', '\x07'), ('b', '\x08'), ('t', '\t'), ('\t', '\t'), ('n', '\n'),
    ('v', '\x0b'), ('f', '\x0c'), ('r', '\r'), ('e', '\x1b'), (' ', ' '), ('"', '"'), ('\\', '\\'),
    ('/', '/'), ('N', '\u0085'), ('_', '\u00a0'), ('L', '\u2028'), ('P', '\u2029')]

/-- The number of digits of the escapes that name a code point. -/
def escapeDigits : List (Char × Nat) :=
  [('x', 2), ('u', 4), ('U', 8)]

/-- The code point with a number. A surrogate is no code point by itself, and no text has one. -/
def codePoint (n : Nat) : Except Fault Char :=
  if n > 0x10FFFF then .error (.noCodePoint n)
  else if 0xD800 ≤ n ∧ n ≤ 0xDFFF then .error .malformed
  else .ok (Char.ofNat n)

/-- The code point that the digits of an escape name. -/
def namedCodePoint (count : Nat) (rest : Text) : Except Fault Char :=
  match (rest.take count).mapM hexDigitValue? with
  | some values =>
    if values.length = count then codePoint (Numeral.ofDigits 16 values) else .error .unfinished
  | none => .error .malformed

/-- What an escape at a place stands for, and the place behind it. -/
def escape (c : Cursor) : Except Fault (Text × Cursor) :=
  let body := c.skip 1
  match body.peek 0 with
  | none => .error .unfinished
  | some letter =>
    match escapes.lookup letter, escapeDigits.lookup letter with
    | some found, _ => .ok ([found], body.skip 1)
    | none, some count => do
      let found ← namedCodePoint count (body.rest.drop 1)
      return ([found], body.skip (count + 1))
    | none, none =>
      match body.takeBreak with
      | none => .error .malformed
      | some (_, c) =>
        let fold := foldBreaks (fun ch => ch == ' ' || ch == '\t') (c.left + 1) c
        if fold.stopped then .error .malformed else .ok (fold.text, fold.cursor)

/-- The blanks at a place inside quotes. -/
def quotedGap (c : Cursor) : Except Fault (Text × Cursor) :=
  let isGap (ch : Char) : Bool := ch == ' ' || ch == '\t'
  let blanks := c.rest.takeWhile isGap
  let c := c.skip blanks.length
  match c.takeBreak with
  | none => .ok (blanks, c)
  | some (b, c) =>
    let fold := foldFrom isGap b c
    if fold.stopped then .error .malformed else .ok (fold.text, fold.cursor)

/-- The text up to the closing quote, and the place behind that. -/
def quotedFrom (double : Bool) : (fuel : Nat) → Cursor → Except Fault (Text × Cursor)
  | 0, _ => .error .unfinished
  | fuel + 1, c =>
    match c.peek 0 with
    | none => .error .unfinished
    | some ch =>
      if ch = (if double then '"' else '\'') then
        if !double && c.peek 1 == some '\'' then do
          let (more, c) ← quotedFrom double fuel (c.skip 2)
          return ('\'' :: more, c)
        else .ok ([], c.skip 1)
      else do
        let (part, c) ←
          if double && ch == '\\' then escape c
          else if ch == ' ' || ch == '\t' || isBreak ch then quotedGap c
          else pure ([ch], c.skip 1)
        let (more, c) ← quotedFrom double fuel c
        return (part ++ more, c)

/-- The scalar in quotes whose opening quote is at a place. -/
def quotedScalar (double : Bool) (c : Cursor) : Except Fault (Text × Cursor) :=
  quotedFrom double (c.left + 1) (c.skip 1)

end GlyphGloss.Yaml
