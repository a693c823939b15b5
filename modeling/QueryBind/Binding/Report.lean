import QueryBind.Binding.Summary

/-!
# Reports

A summary as a boxed table, one row for each field under a row of headings, and three lines that
name the tables, the aggregate flag and the filter. A column is as wide as its widest cell, with
a space on either side; a shorter cell is filled up with spaces.
-/

namespace QueryBind

/-- The same character a number of times. -/
def repeated (c : Char) (n : Nat) : String := String.ofList (List.replicate n c)

def headings : List String := ["#", "table", "field", "type", "aggregation"]

/-- The cells of a field, after its number. -/
def FieldSummary.cells (number : Nat) (f : FieldSummary) : List String :=
  [toString number, f.table, f.field, f.type, f.aggregation]

/-- The width of every column of some rows of cells: that of the widest cell. -/
def columnWidths (rows : List (List String)) : List Nat :=
  rows.foldl (fun widths row => widths.zipWith max (row.map String.length))
    (headings.map fun _ => 0)

/-- A horizontal line with its two ends and its crossings. -/
def borderLine (left crossing right : String) (widths : List Nat) : String :=
  left ++ crossing.intercalate (widths.map fun w => repeated '─' (w + 2)) ++ right ++ "\n"

/-- A cell between spaces, filled up to a width and closed by a vertical line. -/
def paddedCell (width : Nat) (cell : String) : String :=
  " " ++ cell ++ repeated ' ' (width - cell.length) ++ " │"

def cellLine (widths : List Nat) (cells : List String) : String :=
  "│" ++ String.join (widths.zipWith paddedCell cells) ++ "\n"

namespace Summary

/-- The rows of fields, numbered from 1. -/
def rows (s : Summary) : List (List String) :=
  s.fields.zipIdx.map fun (f, i) => f.cells (i + 1)

def widths (s : Summary) : List Nat := columnWidths (headings :: s.rows)

/-- The boxed table and the lines below it. -/
def report (s : Summary) : String :=
  borderLine "┌" "┬" "┐" s.widths ++ cellLine s.widths headings ++
    borderLine "├" "┼" "┤" s.widths ++ String.join (s.rows.map (cellLine s.widths)) ++
    borderLine "└" "┴" "┘" s.widths ++ "tables: " ++ ", ".intercalate s.tables ++ "\n" ++
    "aggregate: " ++ (if s.isAggregate then "true" else "false") ++ "\n" ++
    "filter: " ++ s.filter ++ "\n"

end Summary

end QueryBind
