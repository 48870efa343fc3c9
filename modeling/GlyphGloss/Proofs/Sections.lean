import GlyphGloss.Dictionary.Basic
import GlyphGloss.Proofs.Text

/-!
# The sections of a dictionary file

The lines of a file stand in one of three ways around the marks of its header: there is no header,
or the header lies between its two marks, or its last mark is missing. Each list of lines can be
divided in exactly one of these ways, and this division accounts for every line once. The header and
the body of the file are read off it.

## Main definitions

* `Dictionary.IsPassed`: the lines that can stand before a header.
* `Dictionary.Division`: how lines stand around the marks, with `Dictionary.Division.lines` and
  `Dictionary.Division.sections`.
* `Dictionary.Division.IsProper`: the divisions in which the marks are the right ones.
* `Dictionary.divide`: the division of lines.

## Main results

* `Dictionary.isIdle_eq`: a line is passed over by its first code point that is not blank.
* `Dictionary.divide_lines`: a proper division is the division of its lines.
* `Dictionary.split_lines`: the header and the body of a proper division.
* `Dictionary.splitRaw_divided`: the one division of the lines of a file.
-/

namespace GlyphGloss.Dictionary

variable {line : Text}

/-! ### Lines before a header -/

/-- Whether a line can stand before a header: it is blank or a comment. -/
def IsPassed (line : Text) : Prop :=
  line.trim = [] ∨ line.trim.head? = some '#'

instance : DecidablePred IsPassed := fun line =>
  inferInstanceAs (Decidable (line.trim = [] ∨ line.trim.head? = some '#'))

/-- A line is passed over if its first code point that is not blank starts a comment, or if it has
none. -/
theorem isIdle_eq (line : Text) : isIdle line = (line.find? (!isBlank ·)).all (· == '#') := by
  unfold isIdle Text.trimStart
  induction line with
  | nil => rfl
  | cons c line ih =>
    rw [List.dropWhile_cons, List.find?_cons]
    cases hc : isBlank c
    · rfl
    · exact ih

theorem isIdle_iff : isIdle line ↔ IsPassed line := by
  rw [isIdle_eq, ← Text.head?_trim, IsPassed]
  cases line.trim <;> simp

theorem isMark_iff {mark : Text} : isMark mark line ↔ line.trim = mark := by
  rw [isMark, beq_iff_eq]

/-- A header does not start with a line that is passed over. -/
theorem not_isPassed_of_start (h : line.trim = headerStart) : ¬IsPassed line := by
  rw [IsPassed, h]
  decide

/-- What stands behind the start of a header, told by the first line that is not passed over. -/
theorem afterStart?_eq (lines : List Text) :
    afterStart? lines =
      match lines.dropWhile (IsPassed ·) with
      | [] => none
      | start :: rest => if start.trim = headerStart then some rest else none := by
  induction lines with
  | nil => rfl
  | cons line lines ih =>
    rw [afterStart?, List.dropWhile_cons]
    simp only [isMark_iff, isIdle_iff, decide_eq_true_eq]
    by_cases hpassed : IsPassed line
    · have hstart : line.trim ≠ headerStart := fun h => not_isPassed_of_start h hpassed
      rw [if_neg hstart, if_pos hpassed, if_pos hpassed, ih]
    · rw [if_neg hpassed, if_neg hpassed]

/-! ### Divisions -/

/-- How the lines of a file stand around the marks of its header. -/
inductive Division where
  /-- There is no header: every line belongs to the body. -/
  | headless (body : List Text)
  /-- Lines before the header, its first mark, its lines, its last mark, and the body. -/
  | closed (front : List Text) (start : Text) (header : List Text) (stop : Text) (body : List Text)
  /-- Lines before the header, its first mark, and its lines, which are the last ones. -/
  | unclosed (front : List Text) (start : Text) (header : List Text)
deriving DecidableEq, Repr

namespace Division

/-- The lines that are divided. -/
def lines : Division → List Text
  | headless body => body
  | closed front start header stop body => front ++ start :: (header ++ stop :: body)
  | unclosed front start header => front ++ start :: header

/-- The header, with line feeds between its lines, and the body. -/
def sections : Division → Sections
  | headless body => ⟨[], body⟩
  | closed _ _ header _ body => ⟨Text.join ['\n'] header, body⟩
  | unclosed _ _ header => ⟨Text.join ['\n'] header, []⟩

/-- Whether the marks of a division are the right ones. -/
inductive IsProper : Division → Prop
  /-- The first line that is not passed over, if there is one, is no mark of a start. -/
  | headless {body : List Text}
      (hstart : ∀ line ∈ body.find? (¬IsPassed ·), line.trim ≠ headerStart) :
      IsProper (headless body)
  /-- The header starts behind lines that are passed over, and ends with the first mark of an
  end. -/
  | closed {front : List Text} {start : Text} {header : List Text} {stop : Text}
      {body : List Text} (hfront : ∀ line ∈ front, IsPassed line)
      (hstart : start.trim = headerStart) (hheader : ∀ line ∈ header, line.trim ≠ headerEnd)
      (hstop : stop.trim = headerEnd) : IsProper (closed front start header stop body)
  /-- The header starts behind lines that are passed over, and no mark of an end follows. -/
  | unclosed {front : List Text} {start : Text} {header : List Text}
      (hfront : ∀ line ∈ front, IsPassed line) (hstart : start.trim = headerStart)
      (hheader : ∀ line ∈ header, line.trim ≠ headerEnd) : IsProper (unclosed front start header)

end Division

/-- The division of lines behind the start of a header: the header ends with the first mark of an
end, if there is one. -/
def Division.headed (front : List Text) (start : Text) (rest : List Text) : Division :=
  match rest.dropWhile (·.trim ≠ headerEnd) with
  | [] => unclosed front start rest
  | stop :: body => closed front start (rest.takeWhile (·.trim ≠ headerEnd)) stop body

/-- The division of lines. -/
def divide (lines : List Text) : Division :=
  match lines.dropWhile (IsPassed ·) with
  | [] => .headless lines
  | start :: rest =>
    if start.trim = headerStart then .headed (lines.takeWhile (IsPassed ·)) start rest
    else .headless lines

/-! ### The one division of lines -/

section Divided

variable {front header body lines : List Text} {start stop : Text} {d : Division}

/-- The first line that is not passed over starts what is left without those in front. -/
theorem find?_not_isPassed (lines : List Text) :
    lines.find? (¬IsPassed ·) = (lines.dropWhile (IsPassed ·)).head? := by
  simp [List.find?_eq_head?_dropWhile_not]

theorem Division.headed_closed (hheader : ∀ line ∈ header, line.trim ≠ headerEnd)
    (hstop : stop.trim = headerEnd) (front : List Text) (start : Text) (body : List Text) :
    headed front start (header ++ stop :: body) = closed front start header stop body := by
  have hpass : ∀ line ∈ header, decide (line.trim ≠ headerEnd) = true := by simpa using hheader
  have hend : decide (stop.trim ≠ headerEnd) = false := by simpa using hstop
  rw [headed, Text.dropWhile_append_cons hpass hend, Text.takeWhile_append_cons hpass hend]

theorem Division.headed_unclosed (hheader : ∀ line ∈ header, line.trim ≠ headerEnd)
    (front : List Text) (start : Text) :
    headed front start header = unclosed front start header := by
  rw [headed, List.dropWhile_eq_nil_iff.2 (by simpa using hheader)]

theorem divide_of_headless (h : ∀ line ∈ lines.find? (¬IsPassed ·), line.trim ≠ headerStart) :
    divide lines = .headless lines := by
  rw [find?_not_isPassed] at h
  unfold divide
  cases hrest : lines.dropWhile (IsPassed ·) with
  | nil => rfl
  | cons start rest =>
    rw [hrest] at h
    exact if_neg (h start rfl)

theorem divide_append_cons (hfront : ∀ line ∈ front, IsPassed line)
    (hstart : start.trim = headerStart) (rest : List Text) :
    divide (front ++ start :: rest) = .headed front start rest := by
  have hpass : ∀ line ∈ front, decide (IsPassed line) = true := by simpa using hfront
  have hmark : decide (IsPassed start) = false := by simpa using not_isPassed_of_start hstart
  rw [divide, Text.dropWhile_append_cons hpass hmark, Text.takeWhile_append_cons hpass hmark]
  exact if_pos hstart

/-- A proper division is the division of its lines. -/
theorem divide_lines (h : d.IsProper) : divide d.lines = d := by
  cases h with
  | headless hstart => exact divide_of_headless hstart
  | closed hfront hstart hheader hstop =>
    rw [Division.lines, divide_append_cons hfront hstart, Division.headed_closed hheader hstop]
  | unclosed hfront hstart hheader =>
    rw [Division.lines, divide_append_cons hfront hstart, Division.headed_unclosed hheader]

/-- Every list of lines has a proper division. -/
theorem exists_isProper (lines : List Text) : ∃ d : Division, d.IsProper ∧ d.lines = lines := by
  have hfirst := find?_not_isPassed lines
  rcases Text.forall_or_exists_first (IsPassed ·) lines with
    hall | ⟨front, start, rest, rfl, hfront, hstart⟩
  · rw [List.dropWhile_eq_nil_iff.2 hall] at hfirst
    exact ⟨.headless lines, .headless fun line hline => absurd (hfirst ▸ hline) (by simp), rfl⟩
  · rw [Text.dropWhile_append_cons hfront hstart] at hfirst
    by_cases hmark : start.trim = headerStart
    · rcases Text.forall_or_exists_first (·.trim ≠ headerEnd) rest with
        hheader | ⟨header, stop, body, rfl, hheader, hstop⟩
      · exact ⟨.unclosed front start rest,
          .unclosed (by simpa using hfront) hmark (by simpa using hheader), rfl⟩
      · exact ⟨.closed front start header stop body,
          .closed (by simpa using hfront) hmark (by simpa using hheader) (by simpa using hstop),
          rfl⟩
    · refine ⟨.headless _, .headless fun line hline => ?_, rfl⟩
      rw [hfirst] at hline
      cases hline
      exact hmark

end Divided

/-! ### Header and body -/

/-- The header is what stands before the first mark of an end, and the body what stands behind
it. -/
theorem Division.sections_headed (front : List Text) (start : Text) (rest : List Text) :
    (headed front start rest).sections =
      ⟨Text.join ['\n'] (rest.takeWhile (!isMark headerEnd ·)),
        (rest.drop (rest.takeWhile (!isMark headerEnd ·)).length).drop 1⟩ := by
  rcases Text.forall_or_exists_first (!isMark headerEnd ·) rest with
    hheader | ⟨header, stop, body, rfl, hheader, hstop⟩
  · rw [headed_unclosed (by simpa [isMark] using hheader), List.takeWhile_eq_self_iff.2 hheader,
      List.drop_length]
    rfl
  · rw [headed_closed (by simpa [isMark] using hheader) (by simpa [isMark] using hstop),
      Text.takeWhile_append_cons hheader hstop, List.drop_left]
    rfl

/-- The header and the body are those of the division. -/
theorem split_eq (lines : List Text) : split lines = (divide lines).sections := by
  rw [split, afterStart?_eq, divide]
  cases lines.dropWhile (IsPassed ·) with
  | nil => rfl
  | cons start rest =>
    dsimp only
    split_ifs
    · rw [Division.sections_headed]
    · rfl

/-- The header and the body of a proper division. -/
theorem split_lines {d : Division} (h : d.IsProper) : split d.lines = d.sections := by
  rw [split_eq, divide_lines h]

/-- Lines without line feeds are split as they are. -/
theorem splitRaw_eq {lines : List Text} (h : ∀ line ∈ lines, '\n' ∉ line) :
    splitRaw lines = split lines := by
  have hsame (line : Text) (hline : line ∈ lines) :
      line.dropEndWhile (· == '\n') = line := by
    rw [Text.dropEndWhile_eq_self_iff]
    intro c hc
    rw [beq_eq_false_iff_ne]
    rintro rfl
    exact h line hline (List.mem_of_getLast? hc)
  rw [splitRaw, List.map_congr_left hsame, List.map_id']

/-- **The lines of a file are divided in one way.** Lines without line feeds have exactly one proper
division. Either the first of them that is neither blank nor a comment is no mark of a start, or
there is none: then the header is empty and every line belongs to the body. Or a mark of a start
stands behind blank lines and comments: then the header is the lines up to the first mark of an end,
with line feeds between them, and the body is the lines behind that mark; if there is no such mark,
the header is all the lines behind the start, and the body is empty. -/
theorem splitRaw_divided {lines : List Text} (h : ∀ line ∈ lines, '\n' ∉ line) :
    ∃ d : Division, d.IsProper ∧ d.lines = lines ∧ splitRaw lines = d.sections ∧
      ∀ other : Division, other.IsProper → other.lines = lines → other = d := by
  obtain ⟨d, hd, rfl⟩ := exists_isProper lines
  refine ⟨d, hd, rfl, ?_, fun other hother hlines => ?_⟩
  · rw [splitRaw_eq h, split_lines hd]
  · -- Proper divisions are computed from their lines, so that the same lines have the same one.
    calc other = divide other.lines := (divide_lines hother).symm
      _ = divide d.lines := by rw [hlines]
      _ = d := divide_lines hd

/-- A header behind a blank line and a comment that looks like a mark, with a further mark of a
start in it, and a body with a further mark of an end. -/
theorem splitRaw_divided_repeatedMarks :
    let front : List Text := [[], " #---".toList]
    let header : List Text := ["---".toList, "a: 1".toList]
    let body : List Text := ["中\tx".toList, "...".toList]
    let lines := front ++ "\u3000---\t".toList :: (header ++ " ...".toList :: body)
    (∀ line ∈ lines, '\n' ∉ line) ∧ splitRaw lines = ⟨"---\na: 1".toList, body⟩ := by
  intro front header body lines
  have hfeeds : ∀ line ∈ lines, '\n' ∉ line := by decide
  obtain ⟨d, -, -, hsplit, hone⟩ := splitRaw_divided hfeeds
  have hproper : (Division.closed front "\u3000---\t".toList header " ...".toList body).IsProper :=
    .closed (by decide) (by decide) (by decide) (by decide)
  refine ⟨hfeeds, ?_⟩
  rw [hsplit, ← hone _ hproper rfl]
  decide

end GlyphGloss.Dictionary
