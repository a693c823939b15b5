import Mathlib.Data.List.Induction
import Mathlib.Data.List.Forall2
import Mathlib.Algebra.BigOperators.Group.List.Basic
import Mathlib.Algebra.GroupWithZero.Nat
import Mathlib.Data.List.Infix
import Mathlib.Order.Bounds.Basic
import QueryBind.Binding.Report

/-!
# The box of a report

The widths of the columns are gathered in one walk over the rows, and in another the
lines are filled up to them. Between the two stands one fact: a width is the greatest
length of a cell in its column, so no cell is longer than its column is wide. Then
every line consists of an edge, a block for each column whose length does not depend
on the line, and a line feed, and the blocks of a column stand below each other.
-/

namespace QueryBind

/-! ## Widths -/

/-- The lengths of the cells in a column. -/
def lengthsAt (rows : List (List String)) (j : Nat) : Set Nat :=
  {n | ∃ row ∈ rows, ∃ cell, row[j]? = some cell ∧ cell.length = n}

theorem lengthsAt_concat {rows : List (List String)} {row : List String} {j : Nat}
    {cell : String} (h : row[j]? = some cell) :
    lengthsAt (rows ++ [row]) j = insert cell.length (lengthsAt rows j) := by
  ext n
  simp only [lengthsAt, Set.mem_ofPred_eq, Set.mem_insert_iff, List.mem_append,
    List.mem_singleton]
  constructor
  · rintro ⟨other, hother | rfl, c, hc, hn⟩
    · exact .inr ⟨other, hother, c, hc, hn⟩
    · rw [h] at hc
      cases hc
      exact .inl hn.symm
  · rintro (hn | ⟨other, hother, c, hc, hn⟩)
    · exact ⟨row, .inr rfl, cell, h, hn.symm⟩
    · exact ⟨other, .inl hother, c, hc, hn⟩

theorem columnWidths_concat (rows : List (List String)) (row : List String) :
    columnWidths (rows ++ [row]) =
      (columnWidths rows).zipWith max (row.map String.length) := by
  rw [columnWidths, List.foldl_append]
  rfl

theorem length_columnWidths {rows : List (List String)}
    (h : ∀ row ∈ rows, row.length = headings.length) :
    (columnWidths rows).length = headings.length := by
  induction rows using List.reverseRecOn with
  | nil => rfl
  | append_singleton rows row ih =>
      have hrows := ih fun other hother => h other (List.mem_append_left _ hother)
      have hrow := h row (by simp)
      rw [columnWidths_concat, List.length_zipWith, List.length_map, hrows, hrow,
        Nat.min_self]

/-- A width starts at nothing and is raised to the cells of its column. -/
theorem isGreatest_columnWidths {rows : List (List String)} {j width : Nat}
    (h : (columnWidths rows)[j]? = some width) :
    IsGreatest (insert 0 (lengthsAt rows j)) width := by
  induction rows using List.reverseRecOn generalizing width with
  | nil =>
      have hnone : lengthsAt [] j = ∅ := by simp [lengthsAt]
      have hzero : width = 0 := by
        rw [columnWidths, List.foldl_nil, List.getElem?_map, Option.map_eq_some_iff] at h
        obtain ⟨_, -, hwidth⟩ := h
        exact hwidth.symm
      rw [hnone, hzero, insert_empty_eq]
      exact isGreatest_singleton
  | append_singleton rows row ih =>
      rw [columnWidths_concat, List.getElem?_zipWith_eq_some] at h
      obtain ⟨before, n, hbefore, hn, rfl⟩ := h
      rw [List.getElem?_map, Option.map_eq_some_iff] at hn
      obtain ⟨cell, hcell, rfl⟩ := hn
      rw [lengthsAt_concat hcell, Set.insert_comm, max_comm]
      exact (ih hbefore).insert cell.length

/-- Every cell of a row has room in its column. -/
def HasRoom (cells : List String) (widths : List Nat) : Prop :=
  List.Forall₂ (fun cell width => cell.length ≤ width) cells widths

theorem hasRoom_columnWidths {rows : List (List String)}
    (h : ∀ row ∈ rows, row.length = headings.length) {row : List String}
    (hrow : row ∈ rows) : HasRoom row (columnWidths rows) := by
  refine List.forall₂_iff_get.mpr ⟨by rw [h row hrow, length_columnWidths h], ?_⟩
  intro j hj hwidth
  have hgreatest := isGreatest_columnWidths (List.getElem?_eq_getElem hwidth)
  exact hgreatest.2 (.inr ⟨row, hrow, _, List.getElem?_eq_getElem hj, rfl⟩)

theorem HasRoom.le {cells : List String} {widths : List Nat} (h : HasRoom cells widths)
    {j width : Nat} {cell : String} (hcell : cells[j]? = some cell)
    (hwidth : widths[j]? = some width) : cell.length ≤ width := by
  obtain ⟨hj, rfl⟩ := List.getElem?_eq_some_iff.mp hcell
  obtain ⟨hj', rfl⟩ := List.getElem?_eq_some_iff.mp hwidth
  exact h.get hj hj'

/-! ## Lines in blocks -/

/-- Where the part of a column begins in every line: behind the edge and the columns
before it, each with a blank on both sides of its cells and a line behind them. -/
def columnStart (widths : List Nat) (j : Nat) : Nat :=
  1 + ((widths.take j).map (· + 3)).sum

/-- The length of every line, its line feed included. -/
def lineLength (widths : List Nat) : Nat := columnStart widths widths.length + 1

/-- A line of the box begins at its edge, ends with a line feed and is as long as all
the others. -/
structure IsLine (edge : Char) (widths : List Nat) (text : String) : Prop where
  length_eq : text.length = lineLength widths
  head?_eq : text.toList.head? = some edge
  getLast?_eq : text.toList.getLast? = some '\n'

/-- A text made of an edge, a block for each column and a line feed. -/
structure InBlocks (edge : Char) (widths : List Nat) (blocks : List (List Char))
    (text : String) : Prop where
  toList_eq : text.toList = edge :: (blocks.flatten ++ ['\n'])
  lengths_eq : blocks.map List.length = widths.map (· + 3)

namespace InBlocks

variable {edge : Char} {widths : List Nat} {blocks : List (List Char)} {text : String}

theorem isLine (h : InBlocks edge widths blocks text) : IsLine edge widths text where
  length_eq := by
    rw [← String.length_toList, h.toList_eq, lineLength, columnStart, List.take_length]
    simp only [List.length_cons, List.length_append, List.length_flatten, h.lengths_eq,
      List.length_nil]
    omega
  head?_eq := by rw [h.toList_eq, List.head?_cons]
  getLast?_eq := by rw [h.toList_eq, ← List.cons_append, List.getLast?_concat]

/-- A block stands where its column begins. -/
theorem prefix_drop (h : InBlocks edge widths blocks text) {j : Nat} {block : List Char}
    (hblock : blocks[j]? = some block) :
    block <+: text.toList.drop (columnStart widths j) := by
  have hstart : columnStart widths j = ((blocks.map List.length).take j).sum + 1 := by
    rw [columnStart, h.lengths_eq, List.map_take, Nat.add_comm]
  have hfound : block <+: blocks.flatten.drop ((blocks.map List.length).take j).sum := by
    obtain ⟨hj, rfl⟩ := List.getElem?_eq_some_iff.mp hblock
    rw [List.drop_sum_flatten, List.drop_eq_getElem_cons hj, List.flatten_cons]
    exact List.prefix_append _ _
  rw [h.toList_eq, hstart, List.drop_succ_cons]
  exact hfound.trans (List.IsPrefix.drop (List.prefix_append _ _) _)

end InBlocks

/-! ## Borders -/

/-- A line across the box, drawn through between its two ends and crossed where one
column ends and another begins. -/
structure IsBorder (left crossing right : Char) (widths : List Nat) (text : String) : Prop
    extends IsLine left widths text where
  column : ∀ j width, widths[j]? = some width →
    List.replicate (width + 2) '─' ++ [if j + 1 = widths.length then right else crossing] <+:
      text.toList.drop (columnStart widths j)

/-- What a border shows of each column. -/
def borderBlocks (crossing right : Char) (widths : List Nat) : List (List Char) :=
  widths.mapIdx fun j width =>
    List.replicate (width + 2) '─' ++ [if j + 1 = widths.length then right else crossing]

theorem borderBlocks_cons_cons (crossing right : Char) (w w' : Nat) (widths : List Nat) :
    borderBlocks crossing right (w :: w' :: widths) =
      (List.replicate (w + 2) '─' ++ [crossing]) ::
        borderBlocks crossing right (w' :: widths) := by
  simp [borderBlocks, List.mapIdx_cons]

theorem flatten_borderBlocks (crossing right : Char) {widths : List Nat} (h : widths ≠ []) :
    (borderBlocks crossing right widths).flatten =
      [crossing].intercalate (widths.map fun w => List.replicate (w + 2) '─') ++ [right] := by
  induction widths with
  | nil => exact absurd rfl h
  | cons w widths ih =>
      cases widths with
      | nil => simp [borderBlocks]
      | cons w' widths =>
          rw [borderBlocks_cons_cons, List.flatten_cons, ih (by simp)]
          simp [List.intercalate_cons_cons]

theorem inBlocks_borderLine {left crossing right : String} {l c r : Char}
    (hleft : left.toList = [l]) (hcrossing : crossing.toList = [c])
    (hright : right.toList = [r]) {widths : List Nat} (h : widths ≠ []) :
    InBlocks l widths (borderBlocks c r widths) (borderLine left crossing right widths) where
  toList_eq := by
    rw [flatten_borderBlocks c r h]
    simp [borderLine, repeated, hleft, hcrossing, hright, Function.comp_def]
  lengths_eq := by
    apply List.ext_getElem <;> simp [borderBlocks]

theorem isBorder_borderLine {left crossing right : String} {l c r : Char}
    (hleft : left.toList = [l]) (hcrossing : crossing.toList = [c])
    (hright : right.toList = [r]) {widths : List Nat} (h : widths ≠ []) :
    IsBorder l c r widths (borderLine left crossing right widths) := by
  have hblocks := inBlocks_borderLine hleft hcrossing hright h
  refine ⟨hblocks.isLine, fun j width hwidth => ?_⟩
  apply hblocks.prefix_drop
  rw [borderBlocks, List.getElem?_mapIdx, hwidth, Option.map_some]

/-! ## Rows -/

/-- A line of cells. Where a column begins stand a blank and the cell, and nothing but
blanks up to the line that ends the column. -/
structure IsRow (widths : List Nat) (cells : List String) (text : String) : Prop
    extends IsLine '│' widths text where
  cells_length : cells.length = widths.length
  column : ∀ j cell width, cells[j]? = some cell → widths[j]? = some width →
    ∃ padding, cell.length + padding = width ∧
      ' ' :: cell.toList ++ List.replicate padding ' ' ++ [' ', '│'] <+:
        text.toList.drop (columnStart widths j)

theorem toList_paddedCell (width : Nat) (cell : String) :
    (paddedCell width cell).toList =
      ' ' :: cell.toList ++ List.replicate (width - cell.length) ' ' ++ [' ', '│'] := by
  simp [paddedCell, repeated]

/-- A cell with room in its column is filled up to the width of it. -/
theorem length_paddedCell {width : Nat} {cell : String} (h : cell.length ≤ width) :
    (paddedCell width cell).toList.length = width + 3 := by
  simp only [toList_paddedCell, List.length_append, List.length_cons, List.length_replicate,
    List.length_nil, String.length_toList]
  omega

theorem inBlocks_cellLine {widths : List Nat} {cells : List String} (h : HasRoom cells widths) :
    InBlocks '│' widths ((widths.zipWith paddedCell cells).map String.toList)
      (cellLine widths cells) where
  toList_eq := by
    rw [cellLine, String.toList_append, String.toList_append, String.toList_join,
      List.flatMap_def]
    rfl
  lengths_eq := by
    induction h with
    | nil => rfl
    | cons hcell _ ih =>
        rw [List.zipWith_cons_cons, List.map_cons, List.map_cons, length_paddedCell hcell, ih]
        rfl

theorem isRow_cellLine {widths : List Nat} {cells : List String} (h : HasRoom cells widths) :
    IsRow widths cells (cellLine widths cells) := by
  have hblocks := inBlocks_cellLine h
  refine ⟨hblocks.isLine, h.length_eq, fun j cell width hcell hwidth => ?_⟩
  refine ⟨width - cell.length, Nat.add_sub_cancel' (h.le hcell hwidth), ?_⟩
  rw [← toList_paddedCell]
  apply hblocks.prefix_drop
  rw [List.getElem?_map, List.getElem?_zipWith, hwidth, hcell]
  rfl

/-! ## Reports -/

namespace Summary

theorem length_of_mem_rows {s : Summary} :
    ∀ row ∈ headings :: s.rows, row.length = headings.length := by
  intro row hrow
  rcases List.mem_cons.mp hrow with rfl | hrow
  · rfl
  · obtain ⟨_, _, rfl⟩ := List.mem_map.mp hrow
    rfl

theorem length_widths (s : Summary) : s.widths.length = headings.length :=
  length_columnWidths length_of_mem_rows

theorem isGreatest_widths {s : Summary} {j width : Nat} (h : s.widths[j]? = some width) :
    IsGreatest (lengthsAt (headings :: s.rows) j) width := by
  obtain ⟨hmem, hle⟩ := isGreatest_columnWidths h
  refine ⟨?_, fun n hn => hle (.inr hn)⟩
  rcases hmem with rfl | hmem
  · -- the heading is no wider than nothing, so it is a cell of this width
    have hj : j < headings.length := by
      rw [← s.length_widths]
      exact (List.getElem?_eq_some_iff.mp h).1
    have hheading : headings[j].length ∈ lengthsAt (headings :: s.rows) j :=
      ⟨headings, List.mem_cons_self, _, List.getElem?_eq_getElem hj, rfl⟩
    have hzero : headings[j].length = 0 := Nat.le_zero.mp (hle (.inr hheading))
    rwa [hzero] at hheading
  · exact hmem

theorem isRow_of_mem {s : Summary} {row : List String} (h : row ∈ headings :: s.rows) :
    IsRow s.widths row (cellLine s.widths row) :=
  isRow_cellLine (hasRoom_columnWidths length_of_mem_rows h)

theorem rows_getElem? {s : Summary} {i : Nat} {f : FieldSummary} (h : s.fields[i]? = some f) :
    s.rows[i]? = some (f.cells (i + 1)) := by
  rw [rows, List.getElem?_map, List.getElem?_zipIdx, h, Nat.zero_add]
  rfl

/-- **A report is a box with three lines below it.** Between a border on top and one at
the bottom stand the headings, a border and the fields in order, one row for each. All
these lines are of one length, every column begins at the same place in all of them,
and a cell is followed by blanks up to the line that ends its column. A column is as
wide as the longest of its cells. -/
theorem report_rectangular (s : Summary) :
    (∃ top header middle bottom : String, ∃ rows : List String,
      s.report = top ++ header ++ middle ++ String.join rows ++ bottom ++
        ("tables: " ++ ", ".intercalate s.tables ++ "\n") ++
        ("aggregate: " ++ (if s.isAggregate then "true" else "false") ++ "\n") ++
        ("filter: " ++ s.filter ++ "\n") ∧
      IsBorder '┌' '┬' '┐' s.widths top ∧
      IsRow s.widths ["#", "table", "field", "type", "aggregation"] header ∧
      IsBorder '├' '┼' '┤' s.widths middle ∧
      rows.length = s.fields.length ∧
      (∀ i f, s.fields[i]? = some f → ∃ row, rows[i]? = some row ∧
        IsRow s.widths [toString (i + 1), f.table, f.field, f.type, f.aggregation] row) ∧
      IsBorder '└' '┴' '┘' s.widths bottom) ∧
    s.widths.length = 5 ∧
    ∀ j width, s.widths[j]? = some width →
      IsGreatest (lengthsAt (headings :: s.rows) j) width := by
  have hwidths : s.widths ≠ [] := by
    rw [← List.length_pos_iff, s.length_widths]
    decide
  refine ⟨⟨borderLine "┌" "┬" "┐" s.widths, cellLine s.widths headings,
    borderLine "├" "┼" "┤" s.widths, borderLine "└" "┴" "┘" s.widths,
    s.rows.map (cellLine s.widths), ?_, ?_, ?_, ?_, ?_, ?_, ?_⟩,
    s.length_widths, fun _ _ => isGreatest_widths⟩
  · simp only [report, String.append_assoc]
  · exact isBorder_borderLine rfl rfl rfl hwidths
  · exact isRow_of_mem List.mem_cons_self
  · exact isBorder_borderLine rfl rfl rfl hwidths
  · rw [List.length_map, Summary.rows, List.length_map, List.length_zipIdx]
  · intro i f hf
    have hrow := rows_getElem? hf
    refine ⟨cellLine s.widths (f.cells (i + 1)), ?_, ?_⟩
    · rw [List.getElem?_map, hrow, Option.map_some]
    · exact isRow_of_mem (List.mem_cons_of_mem _ (List.mem_of_getElem? hrow))
  · exact isBorder_borderLine rfl rfl rfl hwidths

example :
    (Summary.mk ["people"] [⟨"people", "name", "VARCHAR", "none"⟩] false "people.id = 1").report =
      "┌───┬────────┬───────┬─────────┬─────────────┐\n" ++
      "│ # │ table  │ field │ type    │ aggregation │\n" ++
      "├───┼────────┼───────┼─────────┼─────────────┤\n" ++
      "│ 1 │ people │ name  │ VARCHAR │ none        │\n" ++
      "└───┴────────┴───────┴─────────┴─────────────┘\n" ++
      "tables: people\naggregate: false\nfilter: people.id = 1\n" := by
  decide +kernel

end Summary

end QueryBind
