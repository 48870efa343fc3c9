import GlyphGloss.Display.Table
import GlyphGloss.Proofs.Text
import Mathlib.Algebra.GroupWithZero.Nat

/-!
# Columns that line up

The cells of a table are measured in columns of a terminal, while lines are put together and trimmed
by code points. Each column is as wide as its widest cell, so that every cell can be filled to that
size. In front of a cell there are then as many terminal columns in each line, whatever the code
points in front of it are, and before they are trimmed, all lines are as long as the one below the
headers.

## Main definitions

* `Display.AreSizes`: the sizes of the widest cells of each column.
* `Display.fullLine`: a line before it is trimmed.
* `Display.lead`: what stands in front of a cell.
* `Display.RowFits`: the rows that fit into columns of given sizes.

## Main results

* `Display.sizes?_eq_none_iff`, `Display.areSizes_of_sizes?`: when there are sizes, and which.
* `Display.RowFits.columns_fullLine`, `Display.RowFits.columns_lead`: where lines end and cells
  start.
* `Display.table?_eq_none_iff`, `Display.exists_sizes_of_table?`: when there is a table, and which.
* `Display.table_aligned`: tables line up.
-/

namespace GlyphGloss

/-! ### Columns of joined texts -/

namespace Text

variable {width : Char → Nat} {sep : Text} {parts : List Text}

theorem columns_flatMap {α : Type} (width : Char → Nat) (f : α → Text) (xs : List α) :
    columns width (xs.flatMap f) = (xs.map fun x => columns width (f x)).sum := by
  induction xs with
  | nil => rfl
  | cons x xs ih => rw [List.flatMap_cons, columns_append, ih, List.map_cons, List.sum_cons]

/-- Joined parts take their own columns and those of the separators between them. -/
theorem columns_join (width : Char → Nat) (sep : Text) (parts : List Text) :
    columns width (join sep parts) =
      (parts.map (columns width)).sum + columns width sep * (parts.length - 1) := by
  induction parts with
  | nil => rfl
  | cons part parts ih =>
    cases parts with
    | nil => simp
    | cons next parts =>
      rw [join_cons_cons, columns_append, columns_append, ih]
      simp only [List.map_cons, List.sum_cons, List.length_cons, Nat.add_sub_cancel, Nat.mul_succ]
      omega

theorem columns_one (t : Text) : columns (fun _ => 1) t = t.length := by
  induction t with
  | nil => rfl
  | cons c t ih =>
    simp only [columns, List.foldr_cons, List.length_cons] at ih ⊢
    omega

/-- A part of joined parts stands behind the parts before it, each with the separator. -/
theorem join_eq_take_append {j : Nat} {part : Text} (h : parts[j]? = some part) :
    join sep parts = (parts.take j).flatMap (· ++ sep) ++ part ++
      (parts.drop (j + 1)).flatMap (sep ++ ·) := by
  induction parts generalizing j with
  | nil => exact absurd h nofun
  | cons first parts ih =>
    cases j with
    | zero =>
      obtain rfl : first = part := Option.some.inj h
      rw [join_cons]
      rfl
    | succ j =>
      rw [List.getElem?_cons_succ] at h
      cases parts with
      | nil => exact absurd h nofun
      | cons next parts =>
        rw [join_cons_cons, ih h]
        simp only [List.take_succ_cons, List.drop_succ_cons, List.flatMap_cons, List.append_assoc]

end Text

namespace Display

variable {width : Char → Nat} {sizes sizes' : List Nat} {headers row : List Text}
  {rows : List (List Text)}

/-! ### The sizes of columns -/

/-- The sizes of the widest cells of each column. -/
structure AreSizes (width : Char → Nat) (rows : List (List Text)) (sizes : List Nat) : Prop where
  /-- No cell is wider than its column. -/
  le : ∀ row ∈ rows, ∀ (j : Nat) size cell, sizes[j]? = some size → row[j]? = some cell →
    cell.columns width ≤ size
  /-- A cell of each column is as wide as the column. -/
  attained : ∀ (j : Nat) size, sizes[j]? = some size →
    ∃ row ∈ rows, ∃ cell, row[j]? = some cell ∧ cell.columns width = size

/-- A row has to have a cell for each column. -/
theorem widest?_eq (width : Char → Nat) (sizes : List Nat) (row : List Text) :
    widest? width sizes row = if sizes.length ≤ row.length then
      some (List.zipWith (fun n cell => max n (cell.columns width)) sizes row) else none := by
  induction sizes generalizing row with
  | nil => rfl
  | cons n ns ih =>
    cases row with
    | nil => rfl
    | cons cell row =>
      rw [widest?, ih]
      simp only [List.length_cons, Nat.add_le_add_iff_right]
      split_ifs <;> rfl

/-- Columns that are widened for one more row have the sizes of the widest cells again. -/
theorem AreSizes.widest (h : AreSizes width rows sizes)
    (hwidest : widest? width sizes row = some sizes') :
    sizes'.length = sizes.length ∧ AreSizes width (rows ++ [row]) sizes' := by
  rw [widest?_eq] at hwidest
  split_ifs at hwidest with hlength
  obtain rfl := Option.some.inj hwidest
  refine ⟨by rw [List.length_zipWith, Nat.min_eq_left hlength], ?_, ?_⟩
  · intro other hother j size cell hj hcell
    obtain ⟨n, widened, hn, hwidened, rfl⟩ := List.getElem?_zipWith_eq_some.1 hj
    rcases List.mem_append.1 hother with hother | hother
    · exact Nat.le_trans (h.le other hother j n cell hn hcell) (Nat.le_max_left _ _)
    · rw [List.mem_singleton.1 hother, hwidened] at hcell
      rw [Option.some.inj hcell]
      exact Nat.le_max_right _ _
  · intro j size hj
    obtain ⟨n, widened, hn, hwidened, rfl⟩ := List.getElem?_zipWith_eq_some.1 hj
    rcases Nat.le_total n (widened.columns width) with hle | hle
    · exact ⟨row, List.mem_concat_self, widened, hwidened, (Nat.max_eq_right hle).symm⟩
    · obtain ⟨other, hother, cell, hcell, hcolumns⟩ := h.attained j n hn
      refine ⟨other, List.mem_append_left _ hother, cell, hcell, ?_⟩
      rw [hcolumns, Nat.max_eq_left hle]

theorem AreSizes.foldlM {done : List (List Text)} (h : AreSizes width done sizes)
    (hrun : rows.foldlM (widest? width) sizes = some sizes') :
    sizes'.length = sizes.length ∧ AreSizes width (done ++ rows) sizes' := by
  induction rows generalizing done sizes with
  | nil =>
    obtain rfl := Option.some.inj hrun
    exact ⟨rfl, by rwa [List.append_nil]⟩
  | cons row rows ih =>
    rw [List.foldlM_cons] at hrun
    obtain ⟨next, hnext, hrun⟩ := Option.bind_eq_some_iff.1 hrun
    obtain ⟨hlength, hsizes⟩ := h.widest hnext
    obtain ⟨hlength', hsizes'⟩ := ih hsizes hrun
    exact ⟨hlength'.trans hlength, by rwa [List.append_assoc] at hsizes'⟩

/-- The sizes of the columns of a table are those of the widest headers and cells. -/
theorem areSizes_of_sizes? (h : sizes? width headers rows = some sizes) :
    sizes.length = headers.length ∧ AreSizes width (headers :: rows) sizes := by
  have hheaders : AreSizes width [headers] (headers.map (Text.columns width)) := by
    constructor
    · intro row hrow j size cell hj hcell
      rw [List.mem_singleton.1 hrow] at hcell
      rw [List.getElem?_map, hcell] at hj
      exact Nat.le_of_eq (Option.some.inj hj)
    · intro j size hj
      rw [List.getElem?_map] at hj
      obtain ⟨cell, hcell, hcolumns⟩ := Option.map_eq_some_iff.1 hj
      exact ⟨headers, List.mem_singleton_self _, cell, hcell, hcolumns⟩
  obtain ⟨hlength, hsizes⟩ := hheaders.foldlM h
  exact ⟨by rw [hlength, List.length_map], hsizes⟩

theorem foldlM_widest?_eq_none_iff :
    rows.foldlM (widest? width) sizes = none ↔ ∃ row ∈ rows, row.length < sizes.length := by
  induction rows generalizing sizes with
  | nil => simp
  | cons row rows ih =>
    rw [List.foldlM_cons, widest?_eq]
    split_ifs with hlength
    · have hsame : (List.zipWith (fun n cell => max n (Text.columns width cell))
          sizes row).length = sizes.length := by rw [List.length_zipWith, Nat.min_eq_left hlength]
      simp only [Option.bind_eq_bind, Option.bind_some, ih, hsame, List.exists_mem_cons_iff]
      exact (or_iff_right (Nat.not_lt.2 hlength)).symm
    · exact iff_of_true rfl ⟨row, List.mem_cons_self, Nat.lt_of_not_le hlength⟩

/-- There are no sizes if a row has no cell for one of the columns. -/
theorem sizes?_eq_none_iff :
    sizes? width headers rows = none ↔ ∃ row ∈ rows, row.length < headers.length := by
  rw [sizes?, foldlM_widest?_eq_none_iff, List.length_map]

/-! ### Lines -/

/-- The cells of a row, filled to the sizes, before the line is trimmed. -/
def fullLine (width : Char → Nat) (sizes : List Nat) (row : List Text) : Text :=
  Text.join " | ".toList (List.zipWith (pad width) sizes row)

/-- What stands in front of a cell: the filled cells before it, each with a bar. -/
def lead (width : Char → Nat) (sizes : List Nat) (row : List Text) (j : Nat) : Text :=
  ((List.zipWith (pad width) sizes row).take j).flatMap (· ++ " | ".toList)

/-- There has to be a column for each cell of a row. -/
theorem cells?_eq (width : Char → Nat) (sizes : List Nat) (row : List Text) :
    cells? width sizes row = if row.length ≤ sizes.length then
      some (List.zipWith (pad width) sizes row) else none := by
  induction row generalizing sizes with
  | nil => simp [cells?]
  | cons cell row ih =>
    cases sizes with
    | nil => rfl
    | cons n ns =>
      rw [cells?, ih]
      simp only [List.length_cons, Nat.add_le_add_iff_right]
      split_ifs <;> rfl

theorem line?_eq (width : Char → Nat) (sizes : List Nat) (row : List Text) :
    line? width sizes row = if row.length ≤ sizes.length then
      some (fullLine width sizes row).trimEnd else none := by
  rw [line?, cells?_eq]
  split_ifs <;> rfl

/-- Rows that have a column for each of their cells are laid out one by one. -/
theorem mapM_line?_eq (width : Char → Nat) (sizes : List Nat) (rows : List (List Text)) :
    rows.mapM (line? width sizes) = if ∀ row ∈ rows, row.length ≤ sizes.length then
      some (rows.map fun row => (fullLine width sizes row).trimEnd) else none := by
  induction rows with
  | nil => simp
  | cons row rows ih =>
    rw [List.mapM_cons, line?_eq, ih]
    simp only [List.forall_mem_cons]
    by_cases hrow : row.length ≤ sizes.length
    · simp only [hrow, true_and, if_true]
      split_ifs <;> rfl
    · simp only [hrow, false_and, if_false]
      rfl

/-! ### Where cells start and lines end -/

/-- A row with a cell for each column that is no wider than the column. -/
structure RowFits (width : Char → Nat) (sizes : List Nat) (row : List Text) : Prop where
  length_eq : row.length = sizes.length
  le : ∀ (j : Nat) size cell, sizes[j]? = some size → row[j]? = some cell →
    cell.columns width ≤ size

/-- Filled cells take the sizes of their columns. -/
theorem RowFits.map_columns_pad (h : RowFits width sizes row) (hspace : width ' ' = 1) :
    (List.zipWith (pad width) sizes row).map (Text.columns width) = sizes := by
  induction sizes generalizing row with
  | nil => simp
  | cons n ns ih =>
    cases row with
    | nil => exact absurd h.length_eq nofun
    | cons cell row =>
      have hfirst := columns_pad hspace (h.le 0 n cell rfl rfl)
      have hrest := ih ⟨Nat.succ.inj h.length_eq, fun j => h.le (j + 1)⟩
      rw [List.zipWith_cons_cons, List.map_cons, hfirst, hrest]

theorem columns_bar (hspace : width ' ' = 1) (hbar : width '|' = 1) :
    Text.columns width " | ".toList = 3 := by
  simp [Text.columns, hspace, hbar]

/-- A line takes the columns of its cells and of the bars between them. -/
theorem RowFits.columns_fullLine (h : RowFits width sizes row) (hspace : width ' ' = 1)
    (hbar : width '|' = 1) :
    (fullLine width sizes row).columns width = sizes.sum + 3 * (sizes.length - 1) := by
  rw [fullLine, Text.columns_join, h.map_columns_pad hspace, columns_bar hspace hbar,
    List.length_zipWith, h.length_eq, Nat.min_self]

/-- In front of a cell there are the columns of the cells before it and three more for each. -/
theorem RowFits.columns_lead (h : RowFits width sizes row) (hspace : width ' ' = 1)
    (hbar : width '|' = 1) (j : Nat) :
    (lead width sizes row j).columns width = ((sizes.take j).map (· + 3)).sum := by
  have hcell (t : Text) : Text.columns width (t ++ " | ".toList) = Text.columns width t + 3 := by
    rw [Text.columns_append, columns_bar hspace hbar]
  conv_rhs => rw [← h.map_columns_pad hspace, ← List.map_take, List.map_map]
  simp only [lead, Text.columns_flatMap, hcell]
  rfl

/-- A filled cell stands behind what is in front of it. -/
theorem exists_fullLine_eq {j size : Nat} {cell : Text} (hsize : sizes[j]? = some size)
    (hcell : row[j]? = some cell) :
    ∃ trail, fullLine width sizes row = lead width sizes row j ++ pad width size cell ++ trail := by
  have hpadded : (List.zipWith (pad width) sizes row)[j]? = some (pad width size cell) :=
    List.getElem?_zipWith_eq_some.2 ⟨size, cell, hsize, hcell, rfl⟩
  exact ⟨_, Text.join_eq_take_append hpadded⟩

/-- The line below the headers takes as many columns as the other lines do before they are
trimmed. -/
theorem columns_rule (hhyphen : width '-' = 1) (hplus : width '+' = 1) (sizes : List Nat) :
    (rule sizes).columns width = sizes.sum + 3 * (sizes.length - 1) := by
  have hcross : Text.columns width "-+-".toList = 3 := by
    simp [Text.columns, hhyphen, hplus]
  rw [rule, Text.columns_join, hcross, List.map_map, List.length_map]
  simp [Function.comp_def, Text.columns_replicate, hhyphen]

theorem length_rule (sizes : List Nat) :
    (rule sizes).length = sizes.sum + 3 * (sizes.length - 1) := by
  rw [← Text.columns_one, columns_rule rfl rfl]

/-! ### Tables -/

/-- With sizes there is a table if no row is too long. -/
theorem table?_of_sizes? (h : sizes? width headers rows = some sizes) :
    table? width headers rows = if ∀ row ∈ rows, row.length ≤ headers.length then
      some (Text.join ['\n'] ((fullLine width sizes headers).trimEnd :: rule sizes ::
        rows.map fun row => (fullLine width sizes row).trimEnd)) else none := by
  have hlength := (areSizes_of_sizes? h).1
  rw [table?, h]
  simp only [Option.bind_eq_bind, Option.bind_some, line?_eq, mapM_line?_eq, hlength,
    Nat.le_refl, if_true]
  split_ifs <;> rfl

/-- There is no table if one of the rows is shorter or longer than the headers. -/
theorem table?_eq_none_iff :
    table? width headers rows = none ↔ ∃ row ∈ rows, row.length ≠ headers.length := by
  cases h : sizes? width headers rows with
  | none =>
    obtain ⟨row, hrow, hlt⟩ := sizes?_eq_none_iff.1 h
    exact iff_of_true (by rw [table?, h]; rfl) ⟨row, hrow, Nat.ne_of_lt hlt⟩
  | some sizes =>
    -- No row is shorter than the headers, since there are sizes.
    have hshort : ∀ row ∈ rows, ¬row.length < headers.length := fun row hrow hlt => by
      rw [sizes?_eq_none_iff.2 ⟨row, hrow, hlt⟩] at h
      exact absurd h nofun
    rw [table?_of_sizes? h, ite_eq_right_iff]
    simp only [reduceCtorEq, imp_false, not_forall, exists_prop]
    refine exists_congr fun row => and_congr_right fun hrow => ?_
    have := hshort row hrow
    omega

/-- The lines of a table. -/
theorem exists_sizes_of_table? {t : Text} (h : table? width headers rows = some t) :
    ∃ sizes, sizes.length = headers.length ∧ AreSizes width (headers :: rows) sizes ∧
      t = Text.join ['\n'] ((fullLine width sizes headers).trimEnd :: rule sizes ::
        rows.map fun row => (fullLine width sizes row).trimEnd) := by
  cases hsizes : sizes? width headers rows with
  | none =>
    rw [table?, hsizes] at h
    exact absurd h nofun
  | some sizes =>
    obtain ⟨hlength, hareSizes⟩ := areSizes_of_sizes? hsizes
    rw [table?_of_sizes? hsizes] at h
    obtain ⟨-, hlines⟩ := Option.ite_none_right_eq_some.1 h
    exact ⟨sizes, hlength, hareSizes, (Option.some.inj hlines).symm⟩

/-- **Tables line up.** Let a space and a bar take one column of the terminal, and all other code
points any number. There is a table exactly if every row has as many cells as there are headers.
Its lines are the headers, the line of hyphens and the rows in order, of which all but the line of
hyphens are trimmed at their ends. With the sizes of the widest header or cell of each column, every
line takes as many columns before it is trimmed as the line of hyphens is long: the sizes, and three
columns between any two of them. A cell is no wider than the size of its column, up to which it is
filled, and in front of it there are as many columns in each line: the sizes of the columns before
it, and three more for each. -/
theorem table_aligned (hspace : width ' ' = 1) (hbar : width '|' = 1) (headers : List Text)
    (rows : List (List Text)) :
    (table? width headers rows = none ↔ ∃ row ∈ rows, row.length ≠ headers.length) ∧
    ∀ t, table? width headers rows = some t → ∃ sizes : List Nat,
      sizes.length = headers.length ∧
      AreSizes width (headers :: rows) sizes ∧
      t = Text.join ['\n'] ((fullLine width sizes headers).trimEnd :: rule sizes ::
        rows.map fun row => (fullLine width sizes row).trimEnd) ∧
      (rule sizes).length = sizes.sum + 3 * (headers.length - 1) ∧
      (width '-' = 1 → width '+' = 1 → (rule sizes).columns width = (rule sizes).length) ∧
      ∀ row ∈ headers :: rows,
        (fullLine width sizes row).columns width = (rule sizes).length ∧
        ∀ (j size : Nat) cell, sizes[j]? = some size → row[j]? = some cell →
          cell.columns width ≤ size ∧
          (∃ trail,
            fullLine width sizes row = lead width sizes row j ++ pad width size cell ++ trail) ∧
          (lead width sizes row j).columns width = ((sizes.take j).map (· + 3)).sum := by
  refine ⟨table?_eq_none_iff, fun t h => ?_⟩
  obtain ⟨sizes, hlength, hsizes, hlines⟩ := exists_sizes_of_table? h
  have hlengths : ∀ row ∈ headers :: rows, row.length = sizes.length := by
    have hsome : ¬∃ row ∈ rows, row.length ≠ headers.length := fun hnone => by
      rw [table?_eq_none_iff.2 hnone] at h
      exact absurd h nofun
    simpa [hlength] using hsome
  refine ⟨sizes, hlength, hsizes, hlines, by rw [length_rule, hlength],
    fun hhyphen hplus => by rw [columns_rule hhyphen hplus, length_rule], fun row hrow => ?_⟩
  have hfits : RowFits width sizes row := ⟨hlengths row hrow, hsizes.le row hrow⟩
  refine ⟨by rw [hfits.columns_fullLine hspace hbar, length_rule], ?_⟩
  intro j size cell hsize hcell
  exact ⟨hfits.le j size cell hsize hcell, exists_fullLine_eq hsize hcell,
    hfits.columns_lead hspace hbar j⟩

/-- Wide cells under narrow headers: the second cells of all lines start alike. A row of one cell
has no place there. -/
theorem table_aligned_wideCells :
    let headers := [['k'], ['r']]
    let rows := [[['甲'], ['x']]]
    table? columns headers rows = some "k  | r\n---+--\n甲 | x".toList ∧
      table? columns headers [[['甲']]] = none ∧
      ∃ sizes, AreSizes columns (headers :: rows) sizes ∧ ∀ row ∈ headers :: rows,
        (fullLine columns sizes row).columns columns = (rule sizes).length ∧
        (lead columns sizes row 1).columns columns = ((sizes.take 1).map (· + 3)).sum := by
  intro headers rows
  have htable : table? columns headers rows = some "k  | r\n---+--\n甲 | x".toList := by
    decide +kernel
  have haligned := table_aligned (by decide +kernel : columns ' ' = 1)
    (by decide +kernel : columns '|' = 1)
  obtain ⟨sizes, hlength, hsizes, -, -, -, hlines⟩ := (haligned headers rows).2 _ htable
  refine ⟨htable, (haligned headers _).1.2 ⟨_, List.mem_singleton_self _, by decide⟩, sizes,
    hsizes, fun row hrow => ⟨(hlines row hrow).1, ?_⟩⟩
  have htwo : row.length = 2 := by
    revert row
    decide
  exact ((hlines row hrow).2 1 _ _ (List.getElem?_eq_getElem (by rw [hlength]; decide))
    (List.getElem?_eq_getElem (by rw [htwo]; decide))).2.2

end Display

end GlyphGloss
