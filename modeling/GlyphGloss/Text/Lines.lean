import GlyphGloss.Text.Basic

/-!
# Lines

A carriage return with a line feed behind it, a carriage return alone and a line feed alone break
lines. They are made line feeds before a text is cut into lines.

## Main definitions

* `Text.normalizeBreaks`: a text with line feeds for all its line breaks.
* `Text.lines`: the lines of a text.

## Main results

* `Text.normalizeBreaks_of_noReturn`: a text without carriage returns stays as it is.
* `Text.lines_flatMap`: lines that are each ended by a line feed come back.
-/

namespace GlyphGloss

namespace Text

/-- Each code point with the line breaks normalized behind it, from the end: the first component is
the code point in front. -/
def breakStep (c : Char) (behind : Option Char × Text) : Option Char × Text :=
  let (next, out) := behind
  (some c, if c = '\r' then (if next = some '\n' then out else '\n' :: out) else c :: out)

/-- The text with a line feed for every line break: a carriage return in front of a line feed
goes, and any other becomes a line feed. -/
def normalizeBreaks (t : Text) : Text :=
  (t.foldr breakStep (none, [])).2

/-- The lines of a text. A line feed at the end of the text starts no further line. -/
def lines (t : Text) : List Text :=
  let parts := t.splitAtEvery '\n'
  if parts.getLast? = some [] then parts.dropLast else parts

/-- A text without carriage returns stays as it is. -/
theorem normalizeBreaks_of_noReturn {t : Text} (h : '\r' ∉ t) : normalizeBreaks t = t := by
  unfold normalizeBreaks
  induction t with
  | nil => rfl
  | cons c t ih =>
    rw [List.mem_cons, not_or] at h
    rw [List.foldr_cons, breakStep, if_neg fun e => h.1 e.symm, ih h.2]

/-- Ended lines are cut apart, with an empty text behind the last one. -/
theorem splitAtEvery_flatMap {ls : List Text} (h : ∀ l ∈ ls, '\n' ∉ l) :
    splitAtEvery '\n' (ls.flatMap (· ++ ['\n'])) = ls ++ [[]] := by
  induction ls with
  | nil => rfl
  | cons l ls ih =>
    have hl : '\n' ∉ l := h l List.mem_cons_self
    rw [List.flatMap_cons, List.append_assoc, List.singleton_append, splitAtEvery_append hl,
      ih fun m hm => h m (List.mem_cons_of_mem _ hm), List.cons_append]

/-- Lines that are each ended by a line feed come back. -/
theorem lines_flatMap {ls : List Text} (h : ∀ l ∈ ls, '\n' ∉ l) :
    lines (ls.flatMap (· ++ ['\n'])) = ls := by
  unfold lines
  simp [splitAtEvery_flatMap h]

end Text

end GlyphGloss
