import GlyphGloss.Dictionary.Shelf
import GlyphGloss.Proofs.Lexicon
import GlyphGloss.Proofs.Sections

/-!
# Writing a dictionary and reading it back

A dictionary file is written as a header between its two marks and a line of cells for each row.
Such a file is read back exactly: the header is the text between the marks, every line behind it is
the row that it was written for, and no line is skipped. The lexicon of the file then depends, for
each key, on the rows of that key only. Whatever a file holds, the text of a key is made of cells of
its lines, so that it has no tabs and no line feeds.

## Main definitions

* `Dictionary.WrittenRow`: a row with all its cells, with `Dictionary.WrittenRow.line`.
* `Dictionary.WrittenRow.Readable`: the rows that can be read back.
* `Dictionary.fileLines`: the lines of a file with a header and rows.

## Main results

* `Dictionary.row_line`: a written row is read back.
* `Dictionary.isCell_lookup_lexicon`: what any dictionary says of a key fits into one cell.
* `Dictionary.ofText_join`: the header and the lines of the rows are read back.
* `Dictionary.read_fileLines`: a written dictionary is read back.
-/

namespace GlyphGloss

/-- The text of a file that is there. -/
theorem Files.readExisting_file {files : Files} {path : Path} {s : String}
    (h : files path = .file s.toUTF8) (missing : Failure) :
    files.readExisting path missing = .ok (Text.normalizeBreaks s.toList) := by
  rw [Files.readExisting, h]
  simp only [Entry.exists?, Entry.read_file]
  rfl

namespace Dictionary

/-- A row as it is written: a key, a value and perhaps further cells. -/
structure WrittenRow where
  /-- The key. -/
  key : Text
  /-- The value. -/
  value : Text
  /-- The cells behind the value. -/
  more : List Text := []

namespace WrittenRow

/-- The cells of a row. -/
def cells (r : WrittenRow) : List Text :=
  r.key :: r.value :: r.more

/-- The line of a row: its cells with tabs between them. -/
def line (r : WrittenRow) : Text :=
  Text.join ['\t'] r.cells

/-- What a row says. -/
def pair (r : WrittenRow) : Text × Text :=
  (r.key, r.value)

/-- A row that can be read back. -/
structure Readable (r : WrittenRow) : Prop where
  /-- The key is not blank, and does not look like a comment. -/
  starts : ∃ c, r.key.find? (!isBlank ·) = some c ∧ c ≠ '#'
  /-- The key is one cell. -/
  key_noTab : '\t' ∉ r.key
  /-- The value is one cell. -/
  value_noTab : '\t' ∉ r.value
  /-- The value is trimmed. -/
  value_trim : r.value.trim = r.value
  /-- The row is one line. -/
  unbroken : ∀ cell ∈ r.cells, '\n' ∉ cell ∧ '\r' ∉ cell

instance (r : WrittenRow) : Decidable r.Readable :=
  decidable_of_iff ((r.key.find? (!isBlank ·)).any (· != '#') = true ∧ '\t' ∉ r.key ∧
      '\t' ∉ r.value ∧ r.value.trim = r.value ∧ ∀ cell ∈ r.cells, '\n' ∉ cell ∧ '\r' ∉ cell)
    (by
      simp only [Option.any_eq_true, bne_iff_ne]
      exact ⟨fun ⟨hstarts, hkey, hvalue, htrim, hbreaks⟩ => ⟨hstarts, hkey, hvalue, htrim, hbreaks⟩,
        fun h => ⟨h.starts, h.key_noTab, h.value_noTab, h.value_trim, h.unbroken⟩⟩)

end WrittenRow

/-- The lines of a file with a header and rows. -/
def fileLines (header : List Text) (rows : List WrittenRow) : List Text :=
  headerStart :: header ++ headerEnd :: rows.map (·.line)

/-! ### Rows -/

section Rows

variable {r : WrittenRow}

/-- The lines behind the mark of the start of a header are the last ones of the file. -/
theorem afterStart?_suffix {lines rest : List Text} (h : afterStart? lines = some rest) :
    rest <:+ lines := by
  induction lines with
  | nil => cases h
  | cons line lines ih =>
    rw [afterStart?] at h
    split_ifs at h
    · cases h
      exact List.suffix_cons _ _
    · exact (ih h).trans (List.suffix_cons _ _)

theorem WrittenRow.Readable.noBreak (hr : r.Readable) {c : Char} (hc : c ∈ r.line) :
    c ≠ '\n' ∧ c ≠ '\r' := by
  rcases Text.mem_join hc with htab | ⟨cell, hcell, hmem⟩
  · rw [List.mem_singleton.1 htab]
    decide
  · have hcell := hr.unbroken cell hcell
    exact ⟨by rintro rfl; exact hcell.1 hmem, by rintro rfl; exact hcell.2 hmem⟩

theorem WrittenRow.Readable.isIdle_line (hr : r.Readable) : isIdle r.line = false := by
  obtain ⟨c, hfind, hc⟩ := hr.starts
  rw [isIdle_eq, WrittenRow.line, WrittenRow.cells, Text.join_cons_cons, List.append_assoc,
    List.find?_append, hfind]
  simpa using hc

theorem WrittenRow.Readable.splitAtEvery_line (hr : r.Readable) :
    ∃ more, r.line.splitAtEvery '\t' = r.key :: r.value :: more := by
  rw [WrittenRow.line, WrittenRow.cells, Text.join_cons_cons, List.append_assoc,
    List.singleton_append, Text.splitAtEvery_append hr.key_noTab]
  cases r.more with
  | nil => exact ⟨[], by rw [Text.join_singleton, Text.splitAtEvery_of_notMem hr.value_noTab]⟩
  | cons cell more =>
    refine ⟨Text.splitAtEvery '\t' (Text.join ['\t'] (cell :: more)), ?_⟩
    rw [Text.join_cons_cons, List.append_assoc, List.singleton_append,
      Text.splitAtEvery_append hr.value_noTab]

/-- A written row is read back. -/
theorem row_line (hr : r.Readable) : row r.line = .entry r.key r.value := by
  have hwhole : r.line.dropEndWhile (fun c => c == '\r' || c == '\n') = r.line := by
    rw [Text.dropEndWhile_eq_self_iff]
    intro c hc
    obtain ⟨hline, hreturn⟩ := hr.noBreak (List.mem_of_getLast? hc)
    simp [hline, hreturn]
  obtain ⟨more, hsplit⟩ := hr.splitAtEvery_line
  obtain ⟨c, hfind, -⟩ := hr.starts
  obtain ⟨first, rest, hkey⟩ : ∃ first rest, r.key = first :: rest := by
    cases hkey : r.key with
    | nil => simp [hkey] at hfind
    | cons first rest => exact ⟨first, rest, rfl⟩
  unfold row
  simp only [hwhole, hr.isIdle_line, hsplit, hkey, hr.value_trim]
  rfl

variable {rows : List WrittenRow}

theorem rows_map_line (hrows : ∀ r ∈ rows, r.Readable) :
    Dictionary.rows (rows.map (·.line)) = rows.map (·.pair) := by
  rw [Dictionary.rows, List.filterMap_map, ← List.filterMap_eq_map]
  refine List.filterMap_congr fun r hr => ?_
  rw [Function.comp_apply, row_line (hrows r hr)]
  rfl

theorem malformed_map_line (hrows : ∀ r ∈ rows, r.Readable) :
    malformed (rows.map (·.line)) = [] := by
  rw [malformed, List.filterMap_eq_nil_iff]
  rintro ⟨line, place⟩ hline
  obtain ⟨r, hr, rfl⟩ := List.mem_map.1 (List.fst_mem_of_mem_zipIdx hline)
  simp only [row_line (hrows r hr)]

end Rows

/-! ### Cells -/

section Cells

variable {line key value : Text} {body : List Text}

/-- The value of a row fits into one cell, whatever the line is. -/
theorem isCell_of_row (hline : '\n' ∉ line) (h : row line = .entry key value) :
    Text.IsCell value := by
  have hcut : line.dropEndWhile (fun c => c == '\r' || c == '\n') ⊆ line :=
    (List.rdropWhile_prefix _ _).subset
  unfold row at h
  simp only at h
  split_ifs at h
  split at h
  · next hcells =>
    injection h with _ hvalue
    rw [← hvalue]
    refine (Text.isCell_of_mem_splitAtEvery (fun hbreak => hline (hcut hbreak)) ?_).of_subset
      (Text.trim_subset _)
    rw [hcells]
    exact List.mem_cons_of_mem _ List.mem_cons_self
  · cases h

/-- The lines of a body have no line feeds. -/
theorem noBreak_of_mem_body {t : Text} (h : line ∈ (ofText t).body) : '\n' ∉ line := by
  have hraw : line ∈ t.lines.map (Text.dropEndWhile (· == '\n')) := by
    unfold ofText splitRaw split at h
    split at h
    · exact h
    · next rest hstart =>
      exact (afterStart?_suffix hstart).subset (List.mem_of_mem_drop (List.mem_of_mem_drop h))
  obtain ⟨whole, hwhole, rfl⟩ := List.mem_map.1 hraw
  exact fun hbreak =>
    Text.noBreak_of_mem_lines hwhole ((List.rdropWhile_prefix _ _).subset hbreak)

/-- The text of a key fits into one cell, whatever the file holds. -/
theorem isCell_lookup_lexicon (t key : Text) :
    Text.IsCell ((lexicon (ofText t).body).lookup key) := by
  rw [lexicon, Lexicon.lookup_ofRows]
  refine Text.IsCell.join ⟨by decide, by decide⟩ fun value hvalue => ?_
  obtain ⟨hrow, -⟩ := Lexicon.mem_given.1 (List.mem_eraseDups.1 hvalue)
  obtain ⟨line, hline, hpair⟩ := List.mem_filterMap.1 hrow
  unfold Row.pair? at hpair
  split at hpair
  · next hentry =>
    cases hpair
    exact isCell_of_row (noBreak_of_mem_body hline) hentry
  · cases hpair

end Cells

/-! ### Files -/

section Written

variable {header : List Text} {rows : List WrittenRow} {ending : Text}

/-- The first line that is the mark of the end closes a header. -/
theorem split_marks (hheader : ∀ line ∈ header, line.trim ≠ headerEnd) (body : List Text) :
    split (headerStart :: header ++ headerEnd :: body) = ⟨Text.join ['\n'] header, body⟩ := by
  have hproper : (Division.closed [] headerStart header headerEnd body).IsProper :=
    .closed nofun (by decide) hheader (by decide)
  exact split_lines hproper

theorem noBreak_fileLines
    (hheader : ∀ line ∈ header, '\n' ∉ line ∧ '\r' ∉ line ∧ line.trim ≠ headerEnd)
    (hrows : ∀ r ∈ rows, r.Readable) :
    ∀ line ∈ fileLines header rows, '\n' ∉ line ∧ '\r' ∉ line := by
  intro line hline
  simp only [fileLines, List.mem_append, List.mem_cons, List.mem_map] at hline
  rcases hline with (rfl | hline) | rfl | ⟨r, hr, rfl⟩
  · decide
  · exact ⟨(hheader line hline).1, (hheader line hline).2.1⟩
  · decide
  · exact ⟨fun h => ((hrows r hr).noBreak h).1 rfl, fun h => ((hrows r hr).noBreak h).2 rfl⟩

theorem noReturn_join
    (hheader : ∀ line ∈ header, '\n' ∉ line ∧ '\r' ∉ line ∧ line.trim ≠ headerEnd)
    (hrows : ∀ r ∈ rows, r.Readable) (hending : ending = [] ∨ ending = ['\n']) :
    '\r' ∉ Text.join ['\n'] (fileLines header rows) ++ ending := by
  rw [List.mem_append, not_or]
  constructor
  · intro hmem
    rcases Text.mem_join hmem with hfeed | ⟨line, hline, hin⟩
    · exact absurd hfeed (by decide)
    · exact (noBreak_fileLines hheader hrows line hline).2 hin
  · rcases hending with rfl | rfl <;> decide

/-- The last line of a file with a header is not empty. -/
theorem getLast?_fileLines_ne (hrows : ∀ r ∈ rows, r.Readable) :
    (fileLines header rows).getLast? ≠ some [] := by
  rw [fileLines, List.getLast?_append_of_ne_nil _ (List.cons_ne_nil _ _)]
  intro hlast
  have hmem := List.mem_of_getLast? hlast
  rcases List.mem_cons.1 hmem with hmark | hline
  · exact absurd hmark (by decide)
  · obtain ⟨r, hr, hnil⟩ := List.mem_map.1 hline
    have hidle := (hrows r hr).isIdle_line
    rw [hnil] at hidle
    exact absurd hidle (by decide)

/-- The header and the lines of the rows come back from the text of a file. -/
theorem ofText_join
    (hheader : ∀ line ∈ header, '\n' ∉ line ∧ '\r' ∉ line ∧ line.trim ≠ headerEnd)
    (hrows : ∀ r ∈ rows, r.Readable) (hending : ending = [] ∨ ending = ['\n']) :
    ofText (Text.join ['\n'] (fileLines header rows) ++ ending) =
      ⟨Text.join ['\n'] header, rows.map (·.line)⟩ := by
  have hfeeds := fun line hline => (noBreak_fileLines hheader hrows line hline).1
  have hlines : Text.lines (Text.join ['\n'] (fileLines header rows) ++ ending) =
      fileLines header rows := by
    rcases hending with rfl | rfl
    · rw [List.append_nil]
      exact Text.lines_join hfeeds (List.cons_ne_nil _ _) (getLast?_fileLines_ne hrows)
    · exact Text.lines_join_append hfeeds (List.cons_ne_nil _ _)
  rw [ofText, hlines, splitRaw_eq hfeeds]
  exact split_marks (fun line hline => (hheader line hline).2.2) _

/-- **A written dictionary is read back.** Let a file hold the lines of a header, none of which
reads as the mark of its end, and of rows that can be read back, with or without a line feed at the
end. Then the header is its lines with line feeds between them, the rows are the given ones, and no
line is skipped. In the lexicon of the file, the text of a key is its distinct values in order of
first appearance, with spaces between them; it is empty for a key without a row, and does not depend
on the rows of other keys. The items are the keys in order of first appearance, each with its
text. -/
theorem read_fileLines
    (hheader : ∀ line ∈ header, '\n' ∉ line ∧ '\r' ∉ line ∧ line.trim ≠ headerEnd)
    (hrows : ∀ r ∈ rows, r.Readable) (hending : ending = [] ∨ ending = ['\n'])
    {files : Files} {path : Path}
    (hfile : files path =
      .file (String.ofList (Text.join ['\n'] (fileLines header rows) ++ ending)).toUTF8) :
    let pairs := rows.map (·.pair)
    let keys := (pairs.map Prod.fst).eraseDups
    ∃ t body lexicon, (∀ missing, files.readExisting path missing = .ok t) ∧
      ofText t = ⟨Text.join ['\n'] header, body⟩ ∧
      Dictionary.rows body = pairs ∧ malformed body = [] ∧
      (Shelf.closed path files).read = .ok (lexicon, [.lexiconLoaded keys.length path]) ∧
      (∀ key, lexicon.lookup key = Text.join [' '] (Lexicon.given pairs key).eraseDups) ∧
      (∀ key, key ∉ pairs.map Prod.fst → lexicon.lookup key = []) ∧
      lexicon.items = keys.map (fun key => (key, lexicon.lookup key)) ∧
      ∀ key, lexicon.lookup key = (Lexicon.ofRows (pairs.filter (·.1 = key))).lookup key := by
  intro pairs keys
  have hread (missing : Failure) : files.readExisting path missing =
      .ok (Text.join ['\n'] (fileLines header rows) ++ ending) := by
    rw [Files.readExisting_file hfile, String.toList_ofList,
      Text.normalizeBreaks_of_noReturn (noReturn_join hheader hrows hending)]
  have hsections := ofText_join hheader hrows hending
  have hpairs := rows_map_line hrows
  have hskipped := malformed_map_line hrows
  have hlookup := Lexicon.lookup_ofRows pairs
  refine ⟨_, _, Lexicon.ofRows pairs, hread, hsections, hpairs, hskipped, ?_, hlookup, ?_, ?_, ?_⟩
  · simp only [Shelf.read, hread, bind, Except.bind, hsections, lexicon, hpairs,
      Shelf.readEvents, hskipped, Lexicon.size_ofRows]
    rfl
  · intro key hkey
    have hnone : Lexicon.given pairs key = [] := by
      rw [List.eq_nil_iff_forall_not_mem]
      intro value hvalue
      exact hkey (List.mem_map_of_mem (Lexicon.mem_given.1 hvalue).1)
    rw [hlookup, hnone]
    rfl
  · rw [Lexicon.items_eq, Lexicon.keys_ofRows]
  · intro key
    rw [hlookup, Lexicon.lookup_ofRows, Lexicon.given_filter]

/-- A header that holds a further start mark, and rows whose keys look like marks, start with a
blank or have no value, with values given again and cells behind them. -/
theorem read_fileLines_threeKeys :
    let header : List Text := ["---".toList, " name: x ".toList, []]
    let rows : List WrittenRow := [⟨"...".toList, "b".toList, [[], "9".toList]⟩,
      ⟨" 中#".toList, [], []⟩, ⟨"...".toList, "a c".toList, []⟩, ⟨"---".toList, "v".toList, []⟩,
      ⟨"...".toList, "b".toList, []⟩]
    let path := Path.parse "d".toList
    let files : Files := fun _ =>
      .file (String.ofList (Text.join ['\n'] (fileLines header rows) ++ ['\n'])).toUTF8
    ∃ lexicon, (Shelf.closed path files).read = .ok (lexicon, [.lexiconLoaded 3 path]) ∧
      lexicon.items = [("...".toList, "b a c".toList), (" 中#".toList, []),
        ("---".toList, "v".toList)] := by
  intro header rows path files
  have hheader : ∀ line ∈ header, '\n' ∉ line ∧ '\r' ∉ line ∧ line.trim ≠ headerEnd := by decide
  have hrows : ∀ r ∈ rows, r.Readable := by decide
  obtain ⟨t, body, lexicon, -, -, -, -, hread, hlookup, -, hitems, -⟩ :=
    read_fileLines hheader hrows (.inr rfl) (rfl : files path = _)
  refine ⟨lexicon, hread, ?_⟩
  rw [hitems]
  simp only [hlookup]
  decide

end Written

end Dictionary

end GlyphGloss
