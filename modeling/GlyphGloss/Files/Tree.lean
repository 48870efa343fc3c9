import GlyphGloss.Files.Entry

/-!
# Trees of files

A tree of files is given by the files in it, each at the names that lead to it from the top; the
directories are those on the way. A path is followed name by name, and what lies outside the tree is
taken to be empty directories.

## Main definitions

* `FileTree`: the trees.
* `FileTree.entry`: what is found at a row of names.
* `FileTree.look`: what the paths of a tree lead to.
-/

namespace GlyphGloss

/-- A tree of files, each with the names that lead to it. -/
structure FileTree where
  /-- The files. -/
  files : List (List Text × ByteArray)

namespace FileTree

/-- What is found at the names from the top. -/
def entry (tree : FileTree) (names : List Text) : Entry :=
  match tree.files.find? fun (place, _) => place = names with
  | some (_, bytes) => .file bytes
  | none =>
    if names.isEmpty ∨ tree.files.any fun (place, _) => names.isPrefixOf place then .directory
    else .missing

/-- Where a path stands while it is followed. -/
inductive Position where
  /-- At names from the top of the tree. -/
  | inside (names : List Text)
  /-- In a directory above the top. -/
  | above
  /-- At nothing, for a reason. -/
  | lost (entry : Entry)

/-- The number of bytes that a name can have. -/
def nameLimit : Nat := 255

/-- The number of bytes that a path can have. -/
def pathLimit : Nat := 4095

/-- The number of bytes of a text. -/
def byteCount (t : Text) : Nat :=
  t.foldr (fun c n => c.utf8Size + n) 0

/-- Where a path stands after one more name. -/
def follow (tree : FileTree) : Position → Text → Position
  | .lost found, _ => .lost found
  | .above, name =>
    if byteCount name > nameLimit then .lost .nameTooLong
    else if name = ['.', '.'] then .above
    else .lost .missing
  | .inside names, name =>
    match tree.entry names with
    | .directory =>
      if byteCount name > nameLimit then .lost .nameTooLong
      else if name = ['.', '.'] then
        if names.isEmpty then .above else .inside names.dropLast
      else .inside (names ++ [name])
    | .file _ => .lost .blocked
    | found => .lost found

/-- What the paths of a tree lead to. -/
def look (tree : FileTree) : Files := fun path =>
  if path.text.any (·.toNat == 0) then .impossible
  else if byteCount path.text > pathLimit then .nameTooLong
  else
    let start : Position := if path.root.isEmpty then .inside [] else .above
    match path.names.foldl tree.follow start with
    | .inside names => tree.entry names
    | .above => .directory
    | .lost found => found

end FileTree

end GlyphGloss
