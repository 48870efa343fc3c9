import GlyphGloss.CommandLine.Program
import GlyphGloss.Tools.Standard

/-!
# The program

Reads the schema and the dictionaries that the arguments name, and shows what a run on them comes
to.

## Main definitions

* `Program.entryAt`: what is found at a path of the file system.
* `Program.filesFor`: the files that a run with given arguments may open.
* `Program.present`: shows what a run came to.
* `main`: the program.
-/

namespace GlyphGloss.Program

/-- What a file error of the system says about a path, if it is one that a run can report. -/
def entryOfError? : IO.Error → Option Entry
  | .noFileOrDirectory .. => some .missing
  | .inappropriateType none _ _ => some .directory
  | .inappropriateType (some _) _ _ => some .blocked
  | .invalidArgument _ 22 _ => some .impossible
  | .invalidArgument .. => some .nameTooLong
  | _ => none

/-- What is found at a path of the file system. -/
def entryAt (path : Path) : IO Entry := do
  match ← (IO.FS.readBinFile (String.ofList path.text)).toBaseIO with
  | .ok bytes => return .file bytes
  | .error e =>
    match entryOfError? e with
    | some found => return found
    | none => throw e

/-- What is found at paths of the file system, all other paths leading to nothing. -/
def filesAt (paths : List Path) : IO Files := do
  let found ← paths.mapM fun path => do return (path, ← entryAt path)
  return fun path => (found.lookup path).getD .missing

/-- The files that a run with arguments may open. -/
def filesFor (arguments : List Text) : IO Files := do
  match Arguments.parse arguments with
  | .error _ => return fun _ => .missing
  | .ok a =>
    let schema :=
      match a.schema with
      | .value path => [path]
      | _ => []
    let files ← filesAt schema
    filesAt (schema ++ dictionaries Tools.standard.reader files a)

/-- How the program is called. -/
def usage : String :=
  "usage: glyphgloss --schema FILE [--data-dir DIRECTORY] [--level off|lv1|lv2|lv3] " ++
    "[--type TAG] [--check] [-v] [text ...]\n"

/-- Shows what a run came to. -/
def present (outcome : Outcome) : IO Unit := do
  let out ← IO.getStdout
  let err ← IO.getStderr
  match outcome with
  | .finished output log =>
    err.putStr (String.ofList log)
    out.putStr (String.ofList output)
  | .refused .help => out.putStr usage
  | .refused .usage => err.putStr usage
  | .stopped message => err.putStrLn (String.ofList message)
  | .failed cause => err.putStrLn (String.ofList cause.message)

end GlyphGloss.Program

/-- Annotates the texts that it is given. -/
def main (arguments : List String) : IO UInt32 := do
  let arguments := arguments.map String.toList
  let files ← GlyphGloss.Program.filesFor arguments
  let outcome := GlyphGloss.Program.run GlyphGloss.Tools.standard files arguments
  GlyphGloss.Program.present outcome
  return outcome.status.toUInt32
