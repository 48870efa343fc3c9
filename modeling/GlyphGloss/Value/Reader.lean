import GlyphGloss.Value.Basic

/-!
# Readers of settings documents

A settings document is read from the bytes of a file or from a text. How this is done is left open:
a reader gives a value, or tells why there is none. It either finds that the document is not
well-formed, or fails in some other way, of which only the kind and the message are known.

## Main definitions

* `Failure.Kind`: the kinds of failure, with `Failure.Kind.isReported`.
* `Reader.Fault`: why a document could not be read.
* `Reader`: the readers.
-/

namespace GlyphGloss

/-- The kinds of failure that the program tells apart, or that have a name of their own. What is of
a kind below one of the first ones counts as that one. -/
inductive Failure.Kind where
  | notFound
  | isDirectory
  | notDirectory
  | system
  | undecodable
  | wrongType
  | wrongValue
  | overflow
  | missingKey
  | outside
  | unable
  /-- Any other kind. -/
  | other (name : String)
deriving DecidableEq, Repr

/-- Whether failures of a kind stop the program with a message while it starts. Bytes that are no
text are a wrong value. -/
def Failure.Kind.isReported : Failure.Kind → Bool
  | .notFound | .wrongType | .wrongValue | .undecodable => true
  | _ => false

/-- Why a settings document could not be read. -/
inductive Reader.Fault where
  /-- The document is not well-formed. -/
  | malformed (detail : Text)
  /-- Reading it failed in another way. -/
  | failed (kind : Failure.Kind) (message : Text)
deriving DecidableEq

/-- A reader of settings documents. -/
structure Reader where
  /-- The value of the document in the bytes of a file. -/
  file : ByteArray → Except Reader.Fault Value
  /-- The value of the document in a text. -/
  text : Text → Except Reader.Fault Value

end GlyphGloss
