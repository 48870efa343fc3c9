import GlyphGloss.Text.Basic

/-!
# Paths

A path is a row of names under a root. Empty names and single dots are left out when it is read, and
double dots are kept. The path without names is the current directory, or the root itself. A path
that starts with exactly two slashes has a root of its own.

## Main definitions

* `Path`: the paths.
* `Path.parse`, `Path.text`: reading and writing paths.
* `Path.parent`, `Path.join`: the directory of a path, and a path inside a directory.
-/

namespace GlyphGloss

/-- A row of names under a root. -/
structure Path where
  /-- The root: nothing for a relative path, else one slash or two. -/
  root : Text
  /-- The names. -/
  names : List Text
deriving DecidableEq, Repr

namespace Path

/-- The root of the path that a text writes. -/
def rootOf (t : Text) : Text :=
  match (t.takeWhile (· == '/')).length with
  | 0 => []
  | 2 => ['/', '/']
  | _ => ['/']

/-- Whether a name is left out of a path. -/
def isIdle (name : Text) : Bool :=
  name.isEmpty || name == ['.']

/-- The path that a text writes. -/
def parse (t : Text) : Path :=
  { root := rootOf t, names := (t.splitAtEvery '/').filter (!isIdle ·) }

/-- A path in writing. -/
def text (p : Path) : Text :=
  if p.root.isEmpty ∧ p.names.isEmpty then ['.'] else p.root ++ Text.join ['/'] p.names

/-- The path without its last name. -/
def parent (p : Path) : Path :=
  { p with names := p.names.dropLast }

/-- A path inside a directory; a path with a root does not depend on the directory. -/
def join (directory p : Path) : Path :=
  if p.root.isEmpty then { directory with names := directory.names ++ p.names } else p

end Path

end GlyphGloss
