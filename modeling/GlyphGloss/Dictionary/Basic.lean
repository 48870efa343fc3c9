import GlyphGloss.Lexicon
import GlyphGloss.Text.Lines

/-!
# Dictionary files

A dictionary file starts with a header between a line `---` and a line `...`, behind blank lines and
comments only; a header that is not closed is the whole rest of the file, and a file may have no
header at all. The other lines are the body. Each line of the body that is neither blank nor a
comment is a row of cells between tabs, of which the first is the key and the second the value.

## Main definitions

* `Dictionary.Sections`, `Dictionary.split`: the header and the body of a file.
* `Dictionary.Row`, `Dictionary.row`: what a line of the body says.
* `Dictionary.rows`, `Dictionary.malformed`: the rows of a body, and the lines that are no rows.
* `Dictionary.lexicon`: the lexicon of a file.
-/

namespace GlyphGloss.Dictionary

/-! ### Header and body -/

/-- The mark of the start of a header. -/
def headerStart : Text := "---".toList

/-- The mark of the end of a header. -/
def headerEnd : Text := "...".toList

/-- The header and the body of a file. -/
structure Sections where
  /-- The text of the header. -/
  header : Text
  /-- The lines of the body. -/
  body : List Text
deriving DecidableEq, Repr

/-- Whether a line is blank or a comment. -/
def isIdle (line : Text) : Bool :=
  match line.trimStart with
  | [] => true
  | c :: _ => c == '#'

/-- Whether a line is a mark. -/
def isMark (mark line : Text) : Bool :=
  line.trim == mark

/-- The lines behind the mark of the start of a header, if only blank lines and comments stand
before it. -/
def afterStart? : List Text → Option (List Text)
  | [] => none
  | line :: rest =>
    if isMark headerStart line then some rest
    else if isIdle line then afterStart? rest
    else none

/-- The header and the body of lines without line feeds at their ends. -/
def split (lines : List Text) : Sections :=
  match afterStart? lines with
  | none => ⟨[], lines⟩
  | some rest =>
    let header := rest.takeWhile (!isMark headerEnd ·)
    ⟨Text.join ['\n'] header, (rest.drop header.length).drop 1⟩

/-- The header and the body of lines as they are read, which may have line feeds at their ends. -/
def splitRaw (lines : List Text) : Sections :=
  split (lines.map (Text.dropEndWhile (· == '\n')))

/-! ### Rows -/

/-- What a line of the body says. -/
inductive Row where
  /-- Nothing: the line is blank or a comment. -/
  | idle
  /-- The line has no second cell, or an empty first one. -/
  | malformed (line : Text)
  /-- A key and a value. -/
  | entry (key value : Text)
deriving DecidableEq, Repr

/-- What a line of the body says. -/
def row (line : Text) : Row :=
  let line := line.dropEndWhile fun c => c == '\r' || c == '\n'
  if isIdle line then .idle
  else
    match line.splitAtEvery '\t' with
    | key@(_ :: _) :: value :: _ => .entry key value.trim
    | _ => .malformed line

/-- The key and the value of a row. -/
def Row.pair? : Row → Option (Text × Text)
  | .entry key value => some (key, value)
  | _ => none

/-- The rows of a body, in order. -/
def rows (body : List Text) : List (Text × Text) :=
  body.filterMap fun line => (row line).pair?

/-- The lines of a body that are no rows, with their places counted from one. -/
def malformed (body : List Text) : List (Nat × Text) :=
  (body.zipIdx 1).filterMap fun (line, place) =>
    match row line with
    | .malformed shown => some (place, shown)
    | _ => none

/-! ### Files -/

/-- The lexicon of a body. -/
def lexicon (body : List Text) : Lexicon :=
  Lexicon.ofRows (rows body)

/-- The header and the body of the text of a file. -/
def ofText (t : Text) : Sections :=
  splitRaw t.lines

end GlyphGloss.Dictionary
