import GlyphGloss.Text.Basic

/-!
# Candidates

A candidate is a text that an input method offers for a stretch of what was typed, with a comment
beside it. Its tag says where it comes from, and the kind of a tag decides how it is annotated.

## Main definitions

* `Candidate`: the candidates.
* `Candidate.Kind`, `Candidate.kind`: the kinds, and the kind of a candidate by its tag.
-/

namespace GlyphGloss

/-- A text offered for a stretch of what was typed. -/
structure Candidate where
  /-- Where the candidate comes from. -/
  tag : String
  /-- Where the stretch starts. -/
  start : Int
  /-- Where the stretch stops. -/
  stop : Int
  /-- The text. -/
  text : Text
  /-- The comment beside it. -/
  comment : Text
deriving DecidableEq, Repr

namespace Candidate

/-- The kinds of candidates. -/
inductive Kind where
  /-- A word of a table. -/
  | plain
  /-- A word turned into simplified characters. -/
  | simplified
  /-- A word whose code is not complete. -/
  | completion
  /-- A punctuation mark. -/
  | punctuation
  /-- A sentence made of words. -/
  | sentence
  /-- Any other candidate. -/
  | other
deriving DecidableEq, Repr

/-- The kind that a tag names. -/
def Kind.ofTag (tag : String) : Kind :=
  if tag ∈ ["table", "user_table", "phrase", "user_phrase"] then .plain
  else if tag = "simplified" then .simplified
  else if tag = "completion" then .completion
  else if tag = "punct" then .punctuation
  else if tag = "sentence" then .sentence
  else .other

/-- The name of a kind. -/
def Kind.name : Kind → String
  | .plain => "plain"
  | .simplified => "simplified"
  | .completion => "completion"
  | .punctuation => "punctuation"
  | .sentence => "sentence"
  | .other => "other"

/-- The kind of a candidate. -/
def kind (c : Candidate) : Kind :=
  Kind.ofTag c.tag

end Candidate

end GlyphGloss
