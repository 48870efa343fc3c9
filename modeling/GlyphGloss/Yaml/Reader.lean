import GlyphGloss.Files.Pieces
import GlyphGloss.Value.Reader
import GlyphGloss.Yaml.Document

/-!
# A reader of settings documents

The documents that schemas and headers are written in: block and flow collections, plain and quoted
scalars. Documents with anchors, tags, merge keys, block scalars, dates with a time of the day or
escapes for surrogates are not among them, and count as not well-formed.

## Main definitions

* `Yaml.Source.ofFile`: the document in the bytes of a file.
* `Yaml.Fault.report`: a fault as readers report it.
* `Yaml.reader`: the reader.
-/

namespace GlyphGloss.Yaml

/-- The document in the bytes of a file. -/
def Source.ofFile (bytes : ByteArray) : Source :=
  let found := Pieces.ofBytes bytes
  { pieces := found.pieces, cut := found.fault.map .undecodable }

/-- The least number of an escape that does not fit in a signed word of 32 bits. -/
def wordLimit : Nat := 0x80000000

/-- What is said of a document that is not well-formed. -/
def malformedDetail : Text := "the document is not well-formed".toList

/-- A fault as readers report it. -/
def Fault.report : Fault → Reader.Fault
  | .malformed | .unfinished => .malformed malformedDetail
  | .noDigits base =>
    .failed .wrongValue
      ("invalid literal for int() with base ".toList ++ Text.ofNat base ++ ": ''".toList)
  | .tooLong digits => .failed .wrongValue (Numeral.limitMessage (some digits))
  | .noDate detail => .failed .wrongValue detail.toList
  | .tooManySixtieths => .failed .overflow "int too large to convert to float".toList
  | .noCodePoint n =>
    if n < wordLimit then .failed .wrongValue "chr() arg not in range(0x110000)".toList
    else .failed .overflow "Python int too large to convert to C int".toList
  | .undecodable fault => .failed .undecodable fault.message

/-- The reader of the documents. -/
def reader : Reader where
  file bytes := (load (.ofFile bytes)).mapError Fault.report
  text t := (load (.ofText t)).mapError Fault.report

end GlyphGloss.Yaml
