import GlyphGloss.Files.Path
import GlyphGloss.Number.Decimal
import GlyphGloss.Text.Lines
import GlyphGloss.Text.Quoted
import GlyphGloss.Text.Utf8

/-!
# Files at paths

What is found at a path: a file with its bytes, a directory, or one of the ways in which a path
leads nowhere. Opening anything but a file fails.

## Main definitions

* `Entry`, `Files`: what a path leads to.
* `Entry.exists?`: whether something is there.
* `Entry.bytes`, `Entry.read`: the bytes of a file, and its text.
* `FileError`: why a path could not be read.

## Main results

* `Entry.read_file`: the text of a file is its decoded bytes with line breaks normalized.
-/

namespace GlyphGloss

/-- What is found at a path. -/
inductive Entry where
  | missing
  | directory
  /-- Nothing, a file being in the place of a directory on the way. -/
  | blocked
  /-- Nothing, a name being longer than names can be. -/
  | nameTooLong
  /-- Nothing, the path holding a code point that no path can hold. -/
  | impossible
  | file (bytes : ByteArray)

/-- What the paths lead to. -/
abbrev Files := Path → Entry

/-- Why a path could not be read. -/
inductive FileError where
  | missing (path : Path)
  | directory (path : Path)
  | blocked (path : Path)
  | nameTooLong (path : Path)
  | impossible
  | undecodable (fault : Utf8.Fault)
deriving DecidableEq

/-- A fault of a file in words. -/
def Utf8.Fault.message (f : Utf8.Fault) : Text :=
  let place :=
    if f.stop = f.start + 1 then
      "byte 0x".toList ++ Text.hexDigits 2 f.byte.toNat ++ " in position ".toList ++
        Text.ofNat f.start
    else
      "bytes in position ".toList ++ Text.ofNat f.start ++ ['-'] ++ Text.ofNat (f.stop - 1)
  let reason :=
    match f.reason with
    | .badStart => "invalid start byte"
    | .badContinuation => "invalid continuation byte"
    | .incomplete => "unexpected end of data"
  "'utf-8' codec can't decode ".toList ++ place ++ ": ".toList ++ reason.toList

/-- A message of the system with its number and a path. -/
def systemMessage (number : Nat) (words : String) (path : Path) : Text :=
  "[Errno ".toList ++ Text.ofNat number ++ "] ".toList ++ words.toList ++ ": ".toList ++
    path.text.quoted

/-- A file error in words. -/
def FileError.message : FileError → Text
  | .missing path => systemMessage 2 "No such file or directory" path
  | .directory path => systemMessage 21 "Is a directory" path
  | .blocked path => systemMessage 20 "Not a directory" path
  | .nameTooLong path => systemMessage 36 "File name too long" path
  | .impossible => "embedded null byte".toList
  | .undecodable fault => fault.message

namespace Entry

/-- Whether something is there. A name that is too long is an error. -/
def exists? (path : Path) : Entry → Except FileError Bool
  | .file _ | .directory => .ok true
  | .missing | .blocked | .impossible => .ok false
  | .nameTooLong => .error (.nameTooLong path)

/-- The bytes of the file at a path. -/
def bytes (path : Path) : Entry → Except FileError ByteArray
  | .file bytes => .ok bytes
  | .missing => .error (.missing path)
  | .directory => .error (.directory path)
  | .blocked => .error (.blocked path)
  | .nameTooLong => .error (.nameTooLong path)
  | .impossible => .error .impossible

/-- The text of the file at a path, with line breaks normalized. -/
def read (path : Path) (e : Entry) : Except FileError Text :=
  match e.bytes path with
  | .error cause => .error cause
  | .ok found =>
    match Utf8.decode found with
    | .ok t => .ok t.normalizeBreaks
    | .error fault => .error (.undecodable fault)

/-- The text of a file is its decoded bytes with line breaks normalized. -/
theorem read_file (path : Path) (s : String) :
    read path (.file s.toUTF8) = .ok (Text.normalizeBreaks s.toList) := by
  simp only [read, bytes]
  rw [Utf8.decode_toUTF8]

end Entry

end GlyphGloss
