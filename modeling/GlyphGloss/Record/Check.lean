import GlyphGloss.Record.Joined

/-!
# Malformed records

A well-formed record stands between brackets and has a spelling. The values of a dictionary are
checked record by record; an empty value says that a character has no record and is fine.

## Main definitions

* `Record.isMalformed`: whether a raw record is not well-formed.
* `Record.hasMalformed`: whether a value holds such a record.
* `Record.findMalformed`: the entries with such a value.
-/

namespace GlyphGloss.Record

/-- Whether a raw record lacks a bracket or a spelling. -/
def isMalformed (raw : Text) : Bool :=
  if raw.head? = some '[' ∧ raw.getLast? = some ']' then
    ((splitFields raw).head?.getD []).isEmpty
  else true

/-- Whether a value holds a malformed record. -/
def hasMalformed (value : Text) : Bool :=
  !value.isEmpty && (splitJoined value).any isMalformed

/-- The entries whose value holds a malformed record, in order. -/
def findMalformed (entries : List (Text × Text)) : List (Text × Text) :=
  entries.filter fun (_, value) => hasMalformed value

end GlyphGloss.Record
