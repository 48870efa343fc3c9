import GlyphGloss.Dictionary.Basic
import GlyphGloss.Failure

/-!
# Headers of dictionaries

The header of a dictionary is a settings document, which a given reader reads; a header that is
blank or no mapping is empty. It can hold the rule entries of the dictionary.

## Main definitions

* `Dictionary.headerValue`: the value of a header.
* `Dictionary.readHeader`: the header of the dictionary at a path.
* `Dictionary.headerRules`: the rule entries in a header.
-/

namespace GlyphGloss.Dictionary

/-- The value of the header of the dictionary at a path. -/
def headerValue (reader : Reader) (path : Path) (header : Text) : Except Failure Value :=
  if header.trim.isEmpty then .ok (.mapping [])
  else do
    match ← (reader.text header).mapError (Failure.ofHeaderFault path) with
    | .mapping entries => return .mapping entries
    | _ => return .mapping []

/-- The header of the dictionary at a path. -/
def readHeader (reader : Reader) (files : Files) (path : Path) : Except Failure Value := do
  let t ← files.readExisting path (.dictionaryMissing path)
  headerValue reader path (ofText t).header

/-- The rule entries in a header, if they are a list. -/
def headerRules (header : Value) : Option (List Value) :=
  match header.at? ["encoder".toList, "rules".toList] with
  | some (.list items) => some items
  | _ => none

end GlyphGloss.Dictionary
