import SheetExport.Proofs.Sheet.Contents
import SheetExport.Proofs.Xml.Outline

/-! # The elements of a worksheet

A worksheet is a document whatever its cells hold, and its elements can be told from the kinds of their values alone:
each row of the sheet stands for one element, and so does each cell that is not omitted, in its row.
-/

namespace SheetExport

open Xml

/-- The elements that stand for a value in its cell. -/
def CellValue.outline (cell : Path) : CellValue → List Path
  | .empty => []
  | .text _ => ["is".toList :: cell, "t".toList :: "is".toList :: cell]
  | _ => ["v".toList :: cell]

/-- The elements of a cell in a row. -/
def Cell.outline (row : Path) (c : Cell) : List Path :=
  if c.isOmitted then [] else ("c".toList :: row) :: c.value.outline ("c".toList :: row)

def Row.outline (rows : Path) (r : Row) : List Path :=
  ("row".toList :: rows) :: r.cells.flatMap (Cell.outline ("row".toList :: rows))

open Xml.Reader

variable {top : Name} {around : Path} {known : List Name} {found : List Path}

theorem numberTokens_taken {number : Token}
    (plain : ∀ inside found, take ⟨.content, inside, found⟩ number = some ⟨.content, inside, found⟩) :
    takeAll ⟨.quoted "c".toList known, top :: around, found⟩ (numberTokens number) =
      some ⟨.content, top :: around,
        ("v".toList :: "c".toList :: top :: around) :: ("c".toList :: top :: around) :: found⟩ := by
  have opens : takeAll ⟨.quoted "c".toList known, top :: around, found⟩ [.close, .startTag "v", .close] =
      some ⟨.content, "v".toList :: "c".toList :: top :: around,
        ("v".toList :: "c".toList :: top :: around) :: ("c".toList :: top :: around) :: found⟩ := rfl
  rw [show numberTokens number = [.close, .startTag "v", .close] ++ number :: [.endTag "v", .endTag "c"] from rfl,
    takeAll_append_of opens, takeAll_cons_of (plain _ _)]
  rfl

/-- What follows the attributes that all cells have leads to the end of the cell, whatever its value. -/
theorem valueTokens_taken (v : CellValue) (fresh : known.contains "t".toList = false) :
    takeAll ⟨.quoted "c".toList known, top :: around, found⟩ v.tokens =
      some ⟨.content, top :: around,
        (v.outline ("c".toList :: top :: around)).reverse ++ ("c".toList :: top :: around) :: found⟩ := by
  have kind (value : String) : take ⟨.quoted "c".toList known, top :: around, found⟩ (.attr "t" value) =
      some ⟨.quoted "c".toList ("t".toList :: known), top :: around, found⟩ := takeAttribute_quoted rfl fresh
  cases v with
  | empty => rfl
  | text s =>
      rw [CellValue.tokens, List.append_assoc, List.cons_append, takeAll_cons_of (kind _)]
      cases hasBlankEnd s with
      | false => rfl
      | true => rfl
  | int n => exact numberTokens_taken fun _ _ => rfl
  | float x => exact numberTokens_taken fun _ _ => rfl
  | bool b =>
      rw [CellValue.tokens, takeAll_cons_of (kind _)]
      exact numberTokens_taken fun _ _ => rfl
  | date d => exact numberTokens_taken fun _ _ => rfl
  | dateTime t => exact numberTokens_taken fun _ _ => rfl

theorem cellTokens_yield (c : Cell) (row column : Nat) :
    Yields (c.tokens row column) (top :: around) (c.outline (top :: around)) := by
  intro found
  rw [Cell.tokens, Cell.outline]
  cases c.isOmitted with
  | true => rfl
  | false =>
      have opens : takeAll ⟨.content, top :: around, found⟩ ([.startTag "c", .attr "r" (cellReference row column)]) =
          some ⟨.quoted "c".toList ["r".toList], top :: around, found⟩ := rfl
      have format : takeAll ⟨.quoted "c".toList ["r".toList], top :: around, found⟩ [.intAttr "s" c.format] =
          some ⟨.quoted "c".toList ["s".toList, "r".toList], top :: around, found⟩ := rfl
      simp only [Bool.false_eq_true, if_false, List.append_assoc, takeAll_append_of opens, List.reverse_cons,
        List.singleton_append]
      by_cases plain : c.format = 0
      · rw [if_pos plain, List.nil_append, valueTokens_taken c.value (by decide)]
      · rw [if_neg plain, takeAll_append_of format, valueTokens_taken c.value (by decide)]

theorem cellsTokens_yield (row : Nat) (cells : List Cell) (column : Nat) :
    Yields (Row.cellTokens row cells column) (top :: around) (cells.flatMap (Cell.outline (top :: around))) := by
  induction cells generalizing column with
  | nil => exact .nil _
  | cons c cells ih =>
      rw [List.flatMap_cons]
      exact (cellTokens_yield c row column).append (ih (column + 1))

theorem rowTokens_yield (r : Row) {top : String} {around : Path} :
    Yields r.tokens (top.toList :: around) (r.outline (top.toList :: around)) :=
  Yields.element (fun _ => rfl) rfl (cellsTokens_yield r.index r.cells 0)

namespace Window

def worksheetPath : Path := ["worksheet".toList]

def columnsPath : Path := "cols".toList :: worksheetPath

def sheetDataPath : Path := "sheetData".toList :: worksheetPath

/-- The elements of a worksheet with some rows. -/
def outline [Gzip] (w : Window) (rows : List Row) : List Path :=
  worksheetPath ::
    ((if w.rowCount = 0 then [] else ["dimension".toList :: worksheetPath]) ++
      (if w.widths.isEmpty then [] else columnsPath :: w.widths.map fun _ => "col".toList :: columnsPath) ++
      sheetDataPath :: rows.flatMap (Row.outline sheetDataPath))

theorem columnTokens_yield (widths : List Nat) (number : Nat) :
    Yields (columnTokens widths number) columnsPath (widths.map fun _ => "col".toList :: columnsPath) := by
  induction widths generalizing number with
  | nil => exact .nil _
  | cons width widths ih =>
      have first : Yields [.startTag "col", .intAttr "min" number, .intAttr "max" number, .intAttr "width" width,
        .intAttr "customWidth" 1, .closeEmpty] columnsPath ["col".toList :: columnsPath] := fun _ => rfl
      exact first.append (ih (number + 1))

theorem dimensionTokens_yield (count : Nat) (reference : String) :
    Yields (if count = 0 then [] else [.startTag "dimension", .attr "ref" reference, .closeEmpty]) worksheetPath
      (if count = 0 then [] else ["dimension".toList :: worksheetPath]) := by
  by_cases empty : count = 0
  · rw [if_pos empty, if_pos empty]
    exact .nil _
  · rw [if_neg empty, if_neg empty]
    exact fun _ => rfl

theorem columnsTokens_yield (widths : List Nat) :
    Yields (if widths.isEmpty then [] else [.startTag "cols", .close] ++ columnTokens widths 1 ++ [.endTag "cols"])
      worksheetPath
      (if widths.isEmpty then [] else columnsPath :: widths.map fun _ => "col".toList :: columnsPath) := by
  cases widths.isEmpty with
  | true => exact .nil _
  | false => exact Yields.element (fun _ => rfl) rfl (columnTokens_yield widths 1)

/-- Whatever is in its cells, a worksheet is a document with the elements of its rows. -/
theorem elements?_worksheet [Gzip] (w : Window) (rows : List Row) :
    elements? (render w.headTokens ++ (Row.textOf rows ++ "</sheetData></worksheet>")) = some (w.outline rows) := by
  have sheetData : Yields ([.startTag "sheetData", .close] ++ rows.flatMap Row.tokens ++ [.endTag "sheetData"])
      worksheetPath (sheetDataPath :: rows.flatMap (Row.outline sheetDataPath)) :=
    Yields.element (fun _ => rfl) rfl (Yields.flatMap (fun r => rowTokens_yield r) rows)
  have dimension := dimensionTokens_yield w.rowCount ("A1:" ++ columnLetters (w.columnCount - 1) ++ toString w.rowCount)
  have opens : start.takeAll [.startTag "worksheet",
      .attr "xmlns" "http://schemas.openxmlformats.org/spreadsheetml/2006/main",
      .attr "xmlns:r" "http://schemas.openxmlformats.org/officeDocument/2006/relationships", .close] =
      some ⟨.content, ["worksheet".toList], [["worksheet".toList]]⟩ := rfl
  have document : elements? _ = some (w.outline rows) :=
    elements?_document toList_declaration opens rfl ((dimension.append (columnsTokens_yield w.widths)).append sheetData)
  have tail : Row.textOf rows ++ "</sheetData></worksheet>" =
      render (rows.flatMap Row.tokens ++ [.endTag "sheetData", .endTag "worksheet"]) := by
    rw [render_append, render_rows]
    rfl
  rw [tail, ← render_append, ← document, headTokens]
  simp only [List.append_assoc, List.cons_append, List.nil_append]

end Window

/-! ## How many there are -/

theorem countNamed_append (name : String) (elements others : List Path) :
    countNamed name (elements ++ others) = countNamed name elements + countNamed name others :=
  List.countP_append

theorem countNamed_same (name : String) (around : Path) (elements : List Path) :
    countNamed name ((name.toList :: around) :: elements) = countNamed name elements + 1 :=
  List.countP_cons_of_pos (by simp)

theorem countNamed_other {name : String} {other : Name} (differs : other ≠ name.toList := by decide) (around : Path)
    (elements : List Path) : countNamed name ((other :: around) :: elements) = countNamed name elements :=
  List.countP_cons_of_neg (by simpa using differs)

/-- A value holds neither cells nor rows. -/
theorem countNamed_value (v : CellValue) (cell : Path) {name : String} (outer : name = "c" ∨ name = "row") :
    countNamed name (v.outline cell) = 0 := by
  obtain rfl | rfl := outer
  · cases v <;> rfl
  · cases v <;> rfl

theorem countCells_cell (row : Path) (c : Cell) :
    countNamed "c" (c.outline row) = if !c.isOmitted then 1 else 0 := by
  rw [Cell.outline]
  cases c.isOmitted with
  | true => rfl
  | false =>
      simp only [Bool.false_eq_true, if_false, Bool.not_false, if_true]
      rw [countNamed_same, countNamed_value c.value _ (.inl rfl)]

theorem countRows_cell (row : Path) (c : Cell) : countNamed "row" (c.outline row) = 0 := by
  rw [Cell.outline]
  cases c.isOmitted with
  | true => rfl
  | false =>
      simp only [Bool.false_eq_true, if_false]
      rw [countNamed_other, countNamed_value c.value _ (.inr rfl)]

theorem countCells_row (rows : Path) (r : Row) :
    countNamed "c" (r.outline rows) = r.cells.countP fun c => !c.isOmitted := by
  rw [Row.outline, countNamed_other]
  induction r.cells with
  | nil => rfl
  | cons c cells ih => rw [List.flatMap_cons, countNamed_append, countCells_cell, ih, List.countP_cons, Nat.add_comm]

theorem countRows_row (rows : Path) (r : Row) : countNamed "row" (r.outline rows) = 1 := by
  rw [Row.outline, countNamed_same]
  induction r.cells with
  | nil => rfl
  | cons c cells ih => rwa [List.flatMap_cons, countNamed_append, countRows_cell, Nat.zero_add]

namespace Window

/-- What stands before the rows of a worksheet holds neither cells nor rows. -/
theorem countNamed_outline [Gzip] (w : Window) (rows : List Row) {name : String} (inner : name = "c" ∨ name = "row") :
    countNamed name (w.outline rows) = countNamed name (rows.flatMap (Row.outline sheetDataPath)) := by
  have outer (other : String) (outer : other ∈ ["worksheet", "dimension", "cols", "col", "sheetData"]) :
      other.toList ≠ name.toList := by
    revert other
    obtain rfl | rfl := inner
    · decide
    · decide
  have dimension : countNamed name (if w.rowCount = 0 then [] else ["dimension".toList :: worksheetPath]) = 0 := by
    split
    · rfl
    · exact countNamed_other (outer "dimension" (by decide)) _ _
  have columns : countNamed name (w.widths.map fun _ => "col".toList :: columnsPath) = 0 := by
    induction w.widths with
    | nil => rfl
    | cons width widths ih => rwa [List.map_cons, countNamed_other (outer "col" (by decide))]
  have columns : countNamed name
      (if w.widths.isEmpty then [] else columnsPath :: w.widths.map fun _ => "col".toList :: columnsPath) = 0 := by
    split
    · rfl
    · rw [columnsPath, countNamed_other (outer "cols" (by decide)), ← columnsPath, columns]
  rw [outline, worksheetPath, countNamed_other (outer "worksheet" (by decide)), ← worksheetPath, countNamed_append,
    countNamed_append, dimension, columns, Nat.zero_add, sheetDataPath,
    countNamed_other (outer "sheetData" (by decide))]

/-- There is one element for each row. -/
theorem countRows_worksheet [Gzip] (w : Window) (rows : List Row) : countNamed "row" (w.outline rows) = rows.length := by
  rw [countNamed_outline w rows (.inr rfl)]
  induction rows with
  | nil => rfl
  | cons r rows ih => rw [List.flatMap_cons, countNamed_append, countRows_row, ih, List.length_cons, Nat.add_comm]

/-- There is one element for each cell that is not omitted. -/
theorem countCells_worksheet [Gzip] (w : Window) (rows : List Row) :
    countNamed "c" (w.outline rows) = (rows.flatMap Row.cells).countP fun c => !c.isOmitted := by
  rw [countNamed_outline w rows (.inl rfl)]
  induction rows with
  | nil => rfl
  | cons r rows ih =>
      rw [List.flatMap_cons, countNamed_append, countCells_row, ih, List.flatMap_cons, List.countP_append]

end Window

end SheetExport
