import GlyphGloss.Dictionary.Basic
import GlyphGloss.Event
import GlyphGloss.Failure

/-!
# Dictionaries that are read when needed

A dictionary file is read when something is first looked up in it, and then kept. A file that cannot
be read is tried again at the next look-up.

## Main definitions

* `Shelf`: a dictionary that was read or not.
* `Shelf.read`: the dictionary read, with the events of reading it.
* `Shelf.lookup`: the text of a key.

## Main results

* `Shelf.read_opened`: a dictionary that was read is not read again.
-/

namespace GlyphGloss

/-- A dictionary that was read or not. -/
inductive Shelf where
  /-- A dictionary file that was not read yet, with what is found at its path. -/
  | closed (path : Path) (files : Files)
  /-- A dictionary that was read. -/
  | opened (lexicon : Lexicon)

namespace Shelf

/-- The events of reading the body of the dictionary at a path. -/
def readEvents (path : Path) (body : List Text) (lexicon : Lexicon) : List Event :=
  (Dictionary.malformed body).map (fun (place, line) => .rowSkipped place line) ++
    [.lexiconLoaded lexicon.size path]

/-- The lexicon of a dictionary, and the events of reading it. -/
def read : Shelf → Except Failure (Lexicon × List Event)
  | .opened lexicon => .ok (lexicon, [])
  | .closed path files => do
    let t ← files.readExisting path (.lexiconMissing path)
    let body := (Dictionary.ofText t).body
    let lexicon := Dictionary.lexicon body
    return (lexicon, readEvents path body lexicon)

/-- The text of a key in a dictionary that was read, and nothing in one that was not. -/
def lookup : Shelf → Text → Text
  | .opened lexicon, key => lexicon.lookup key
  | .closed _ _, _ => []

/-- A dictionary that was read is not read again. -/
theorem read_opened (lexicon : Lexicon) : Shelf.read (.opened lexicon) = .ok (lexicon, []) := rfl

end Shelf

end GlyphGloss
