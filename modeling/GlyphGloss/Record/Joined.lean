import GlyphGloss.Record.Component

/-!
# Several records of one character

A character with several dictionary rows has its records one after the other, with blanks between
the closing bracket of one and the opening bracket of the next. Blanks elsewhere belong to a record.

## Main definitions

* `Record.joint`: the blanks between two records.
* `Record.splitJoined`: the raw records of a value.
* `Record.readAll`, `Record.readFirst?`: the records of a value that have fields.
* `Record.componentsOf?`: the components of the first record of a value.
-/

namespace GlyphGloss.Record

/-- The number of blanks at the start of a text if an opening bracket follows them, else zero. -/
def joint (t : Text) : Nat :=
  let blanks := t.takeWhile isBlank
  if t[blanks.length]? = some '[' then blanks.length else 0

/-- The raw records of a text, of which the given number of code points is part of a joint. -/
def cutAfter : (done : Nat) → Text → List Text
  | _, [] => [[]]
  | done + 1, _ :: rest => cutAfter done rest
  | 0, c :: rest =>
    match (if c = ']' then joint rest else 0) with
    | 0 => Text.consHead c (cutAfter 0 rest)
    | blanks + 1 => [c] :: cutAfter (blanks + 1) rest

/-- The raw records of a value, cut at the joints. -/
def splitJoined (raw : Text) : List Text :=
  (cutAfter 0 raw.trim).filter (!·.isEmpty)

/-- The record of a raw record, if it has fields. -/
def ofRaw? (raw : Text) : Option Record :=
  match splitFields raw with
  | [] => none
  | fields => some ⟨fields⟩

/-- The records of a value that have fields. -/
def readAll (raw : Text) : List Record :=
  (splitJoined raw).filterMap ofRaw?

/-- The first record of a value that has fields. -/
def readFirst? (raw : Text) : Option Record :=
  (readAll raw).head?

/-- The components of one part of the first record of a value. -/
def componentsOf? (raw : Text) (extract : Extract) : Option (List Text) :=
  (readFirst? raw).map (·.components extract)

/-- Code points that are done are dropped. -/
theorem cutAfter_eq_drop {done : Nat} {t : Text} (h : done ≤ t.length) :
    cutAfter done t = cutAfter 0 (t.drop done) := by
  induction t generalizing done with
  | nil => simp_all
  | cons c t ih =>
    cases done with
    | zero => rfl
    | succ done =>
      rw [cutAfter, List.drop_succ_cons]
      exact ih (by simpa using h)

/-- Every text has a part. -/
theorem cutAfter_ne_nil (done : Nat) (t : Text) : cutAfter done t ≠ [] := by
  induction t generalizing done with
  | nil => simp [cutAfter]
  | cons c t ih =>
    cases done with
    | succ done => simpa [cutAfter] using ih done
    | zero =>
      rw [cutAfter]
      split
      · cases cutAfter 0 t <;> simp [Text.consHead]
      · simp

end GlyphGloss.Record
