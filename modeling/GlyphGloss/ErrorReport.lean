import GlyphGloss.Number.Decimal

/-!
# Reports of several errors

A step that finds several errors reports them together: their number, then the first of them one to
a line, then how many more there are.

## Main definitions

* `ErrorReport.shown`: how many errors are listed.
* `ErrorReport.text`: the report.

## Main results

* `ErrorReport.tail_eq_nil_iff`: the line on further errors is left out exactly when all are listed.
-/

namespace GlyphGloss.ErrorReport

/-- How many errors are listed. -/
def shown : Nat := 25

/-- The line on the errors that are not listed. -/
def tail (count : Nat) : Text :=
  if shown < count then "\n- ... and ".toList ++ Text.ofNat (count - shown) ++ " more".toList
  else []

/-- The report of the errors of a step. -/
def text (context : Text) (errors : List Text) : Text :=
  context ++ " failed with ".toList ++ Text.ofNat errors.length ++ " errors:\n".toList ++
    Text.join ['\n'] ((errors.take shown).map ("- ".toList ++ ·)) ++ tail errors.length

/-- The line on further errors is left out exactly when all are listed. -/
theorem tail_eq_nil_iff (count : Nat) : tail count = [] ↔ count ≤ shown := by
  unfold tail
  split
  · next h => simp; omega
  · next h => simp; omega

end GlyphGloss.ErrorReport
