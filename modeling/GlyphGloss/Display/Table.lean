import GlyphGloss.Text.Columns

/-!
# Tables on display

Rows under headers are laid out in columns that line up on a terminal: every cell but those at the
end of a line is filled with spaces up to the widest cell of its column, and a line of hyphens
stands below the headers. A row without a cell for one of the columns has no place in the table, and
neither has a row with a cell that no column is for. How many columns of the terminal a code point
takes is given.

## Main definitions

* `Display.sizes?`: the sizes of the columns, if every row has a cell for each.
* `Display.line?`: a row as a line, if there is a column for each of its cells.
* `Display.table?`: the table, if the rows fit.

## Main results

* `Display.columns_pad`: a padded cell takes the size of its column.
-/

namespace GlyphGloss.Display

/-- A cell filled with spaces up to a number of columns. -/
def pad (width : Char → Nat) (size : Nat) (cell : Text) : Text :=
  cell ++ List.replicate (size - cell.columns width) ' '

/-- The sizes of columns that are wide enough for the cells of one more row, if the row has a cell
for each column. -/
def widest? (width : Char → Nat) : (sizes : List Nat) → (row : List Text) → Option (List Nat)
  | [], _ => some []
  | _ :: _, [] => none
  | n :: ns, cell :: row => (widest? width ns row).map (max n (cell.columns width) :: ·)

/-- The sizes of the columns of a table: of the widest header or cell of each. -/
def sizes? (width : Char → Nat) (headers : List Text) (rows : List (List Text)) :
    Option (List Nat) :=
  rows.foldlM (widest? width) (headers.map (Text.columns width))

/-- The cells of a row, each filled to the size of its column, if there is a column for each. -/
def cells? (width : Char → Nat) : (sizes : List Nat) → (row : List Text) → Option (List Text)
  | _, [] => some []
  | [], _ :: _ => none
  | n :: ns, cell :: row => (cells? width ns row).map (pad width n cell :: ·)

/-- A row as a line, without blanks at its end. -/
def line? (width : Char → Nat) (sizes : List Nat) (row : List Text) : Option Text :=
  (cells? width sizes row).map fun cells => (Text.join " | ".toList cells).trimEnd

/-- The line below the headers. -/
def rule (sizes : List Nat) : Text :=
  Text.join "-+-".toList (sizes.map fun n => List.replicate n '-')

/-- The table of rows under headers, if every row has as many cells as there are headers. -/
def table? (width : Char → Nat) (headers : List Text) (rows : List (List Text)) : Option Text := do
  let sizes ← sizes? width headers rows
  let first ← line? width sizes headers
  let lines ← rows.mapM (line? width sizes)
  return Text.join ['\n'] (first :: rule sizes :: lines)

/-- A cell that is no wider than its column takes exactly the size of the column. -/
theorem columns_pad {width : Char → Nat} (hw : width ' ' = 1) {size : Nat} {cell : Text}
    (h : cell.columns width ≤ size) : (pad width size cell).columns width = size := by
  unfold pad
  rw [Text.columns_append, Text.columns_replicate, hw]
  omega

end GlyphGloss.Display
